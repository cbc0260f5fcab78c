import Registry.Proofs.Outcome
import Registry.Proofs.Template.Reading
import Registry.Proofs.Text.Ascii

/-!
# Substitution

The text of a template is what its parts give, each in the place of the part (`Template.Gives`); it
has none exactly if some part lacks its variable (`Template.Lacks`), and the error is that of the
first such part (`Template.substitute_reference`). So a template is substituted line by line: two
templates together give what each gives, if the first ends where a line does.
-/

namespace Registry.Template

/-! ## What parts give -/

/-- The variable that an expression names. -/
def Expression.name : Expression → Text
  | required name | withDefault name _ | withMessage name _ => name

variable (env : Environment)

/-- What stands for a part: a copied code point for itself; for a placeholder the value of its
variable, and the default if there is no such variable. -/
inductive Gives : Part → Text → Prop
  | copied (c : CodePoint) : Gives (.copied c) [c]
  | value {e value : Text} {x : Expression} (hasks : Asks e x)
      (hvalue : env.get? x.name = some value) : Gives (.placeholder e) value
  | default {e name default : Text} (hasks : Asks e (.withDefault name default))
      (hunset : env.get? name = none) : Gives (.placeholder e) default

/-- The part is a placeholder whose variable is required and not there. -/
inductive Lacks : Part → TemplateError → Prop
  | unset {e name : Text} (hasks : Asks e (.required name)) (hunset : env.get? name = none) :
      Lacks (.placeholder e) (.unset name)
  | unsetBecause {e name message : Text} (hasks : Asks e (.withMessage name message))
      (hunset : env.get? name = none) : Lacks (.placeholder e) (.unsetBecause name message)

def Part.eval : Part → Except TemplateError Text
  | copied c => .ok [c]
  | placeholder e => (Expression.ofText e).eval env

/-- What parts evaluate to, one after the other. -/
def fill (ps : List Part) : Except TemplateError Text := (ps.mapM (Part.eval env)).map List.flatten

variable {env} {c : CodePoint} {e t : Text} {p : Part} {ps qs : List Part}

theorem fill_cons_ok {s : Text} (h : p.eval env = .ok s) (ps : List Part) :
    fill env (p :: ps) = (fill env ps).map (s ++ ·) := by
  unfold fill
  rw [mapM_cons_ok h]
  cases ps.mapM (Part.eval env) <;> rfl

theorem fill_cons_error {fault : TemplateError} (h : p.eval env = .error fault) (ps : List Part) :
    fill env (p :: ps) = .error fault := by
  rw [fill, mapM_cons_error h]
  rfl

theorem fill_copied (line : Text) : fill env (line.map .copied) = .ok line := by
  induction line with
  | nil => rfl
  | cons c line ih =>
    rw [List.map_cons, fill_cons_ok (s := [c]) rfl, ih]
    rfl

theorem fill_append (ps qs : List Part) :
    fill env (ps ++ qs) = do
      let s ← fill env ps
      let t ← fill env qs
      return s ++ t := by
  induction ps with
  | nil =>
    rw [List.nil_append]
    cases fill env qs <;> rfl
  | cons p ps ih =>
    cases h : p.eval env with
    | error fault =>
      rw [List.cons_append, fill_cons_error h, fill_cons_error h]
      rfl
    | ok s =>
      rw [List.cons_append, fill_cons_ok h, fill_cons_ok h, ih]
      cases fill env ps with
      | error fault => rfl
      | ok s =>
        cases fill env qs with
        | error fault => rfl
        | ok t => simp [Except.map, bind, Except.bind, pure, Except.pure]

/-! ## Substituting what a template consists of -/

/-- Code points that are skipped are passed over. -/
theorem substituteLine_skip (s t : Text) :
    substituteLine env s.length (s ++ t) = substituteLine env 0 t := by
  induction s with
  | nil => rfl
  | cons c s ih => exact ih

theorem substituteLine_eq_fill {line : Text} (h : Scan line ps) :
    substituteLine env 0 line = fill env ps := by
  induction h with
  | nil => rfl
  | @placeholder e rest ps he _ ih =>
    have hsome : placeholder? (placeholderText e ++ rest) = some e :=
      placeholder?_eq_some_iff.mpr ⟨he, rest, rfl⟩
    -- After the dollar sign the rest of the placeholder is skipped.
    have hcons : placeholderText e ++ rest
        = .ofChar '$' :: ((.ofChar '\x7b' :: (e ++ [.ofChar '\x7d'])) ++ rest) := rfl
    have hlength : e.length + delimiterLength - 1
        = (CodePoint.ofChar '\x7b' :: (e ++ [.ofChar '\x7d'])).length := by
      simp [delimiterLength]
    rw [hcons] at hsome ⊢
    rw [substituteLine, hsome]
    simp only [hlength, substituteLine_skip, ih]
    cases heval : (Expression.ofText e).eval env with
    | error fault => rw [fill_cons_error (p := .placeholder e) heval]
    | ok s => rw [fill_cons_ok (p := .placeholder e) heval]
  | @copied c rest ps hbegins _ ih =>
    have hnone : placeholder? (c :: rest) = none := by
      rw [Option.eq_none_iff_forall_ne_some]
      intro e hsome
      obtain ⟨he, more, heq⟩ := placeholder?_eq_some_iff.mp hsome
      exact hbegins ⟨e, more, he, heq⟩
    rw [substituteLine, hnone, fill_cons_ok (s := [c]) rfl, ← ih]
    rfl

theorem substituteLines_eq_fill {ls : List Text} {parts : List (List Part)}
    (h : List.Forall₂ LineConsists ls parts) :
    substituteLines env ls = fill env parts.flatten := by
  induction h with
  | nil => rfl
  | @cons line ps ls parts hline _ ih =>
    have hfill : (if isComment line then .ok line else substituteLine env 0 line)
        = fill env ps := by
      cases hline with
      | comment hcomment => rw [if_pos (isComment_iff.mpr hcomment), fill_copied]
      | scanned hcomment hscan =>
        rw [if_neg (fun h => hcomment (isComment_iff.mp h)), substituteLine_eq_fill hscan]
    rw [substituteLines, hfill, List.flatten_cons, fill_append, ← ih]
    cases fill env ps with
    | error fault => rfl
    | ok s => cases substituteLines env ls <;> rfl

theorem substitute_eq_fill (h : Consists t ps) : substitute env t = fill env ps := by
  obtain ⟨ls, parts, hcut, hparts, rfl⟩ := h
  rw [substitute, hcut.lines_eq, substituteLines_eq_fill hparts]

theorem substitute_append {a b : Text} (h : ∀ c ∈ a.getLast?, c.isLineBoundary = true) :
    substitute env (a ++ b) = do
      let s ← substitute env a
      let t ← substitute env b
      return s ++ t := by
  obtain ⟨ps, ha⟩ := exists_consists a
  obtain ⟨qs, hb⟩ := exists_consists b
  rw [substitute_eq_fill (ha.append hb h), fill_append, substitute_eq_fill ha,
    substitute_eq_fill hb]

/-! ## Names without surrogates -/

theorem ofName?_eq_none {name : Text} (h : name.NoSurrogates) :
    EncodeError.ofName? name = none := by
  unfold EncodeError.ofName?
  generalize 0 = position
  induction name generalizing position with
  | nil => rfl
  | cons c name ih =>
    obtain ⟨hc, hname⟩ := List.forall_mem_cons.mp h
    rw [EncodeError.inName?, hc]
    exact ih hname (position + 1)

theorem lookup_eq {name : Text} (h : name.NoSurrogates) :
    lookup env name = .ok (env.get? name) := by
  rw [lookup, ofName?_eq_none h]

theorem Asks.name_subset {x : Expression} (h : Asks e x) : ∀ c ∈ x.name, c ∈ e := by
  intro c hc
  cases h with
  | withDefault h =>
    rw [h.eq]
    exact List.mem_append_left _ hc
  | withMessage _ h =>
    rw [h.eq]
    exact List.mem_append_left _ hc
  | required => exact hc

/-- A variable that is there counts, whatever else the expression says. -/
theorem Expression.eval_eq_value {x : Expression} {value : Text}
    (h : lookup env x.name = .ok (some value)) : x.eval env = .ok value := by
  cases x <;> simp_all [Expression.name, Expression.eval, Except.map]

/-- The parts of a template have no other code points. -/
theorem Consists.source_subset (h : Consists t ps) (hp : p ∈ ps) : ∀ c ∈ p.source, c ∈ t := by
  intro c hc
  rw [← h.source]
  exact List.mem_flatten.mpr ⟨p.source, List.mem_map.mpr ⟨p, hp, rfl⟩, hc⟩

variable (env) in
theorem Asks.lookup_eq {x : Expression} (hasks : Asks e x)
    (h : (Part.placeholder e).source.NoSurrogates) :
    lookup env x.name = .ok (env.get? x.name) := by
  apply Template.lookup_eq
  intro c hc
  apply h
  simp [Part.source, placeholderText, hasks.name_subset c hc]

theorem Gives.eval_eq {s : Text} (hgives : Gives env p s) (h : p.source.NoSurrogates) :
    p.eval env = .ok s := by
  cases hgives with
  | copied c => rfl
  | @value e value x hasks hvalue =>
    have hlookup := hasks.lookup_eq env h
    rw [hvalue] at hlookup
    rw [Part.eval, asks_iff.mp hasks, Expression.eval_eq_value hlookup]
  | @default e name default hasks hunset =>
    have hlookup := hasks.lookup_eq env h
    rw [Expression.name, hunset] at hlookup
    rw [Part.eval, asks_iff.mp hasks, Expression.eval, hlookup]
    rfl

theorem Lacks.eval_eq {fault : TemplateError} (hlacks : Lacks env p fault)
    (h : p.source.NoSurrogates) : p.eval env = .error fault := by
  cases hlacks with
  | @unset e name hasks hunset =>
    have hlookup := hasks.lookup_eq env h
    rw [Expression.name, hunset] at hlookup
    rw [Part.eval, asks_iff.mp hasks, Expression.eval, hlookup]
  | @unsetBecause e name message hasks hunset =>
    have hlookup := hasks.lookup_eq env h
    rw [Expression.name, hunset] at hlookup
    rw [Part.eval, asks_iff.mp hasks, Expression.eval, hlookup]

variable (env) in
/-- A part that gives nothing lacks its variable. -/
theorem gives_or_lacks (p : Part) : (∃ s, Gives env p s) ∨ ∃ fault, Lacks env p fault := by
  cases p with
  | copied c => exact .inl ⟨[c], .copied c⟩
  | placeholder e =>
    have hasks := asks_ofText e
    cases hvalue : env.get? (Expression.ofText e).name with
    | some value => exact .inl ⟨value, .value hasks hvalue⟩
    | none =>
      generalize Expression.ofText e = x at hasks hvalue
      cases x with
      | required name => exact .inr ⟨_, .unset hasks hvalue⟩
      | withDefault name default => exact .inl ⟨default, .default hasks hvalue⟩
      | withMessage name message => exact .inr ⟨_, .unsetBecause hasks hvalue⟩

theorem eval_eq_ok_iff {s : Text} (h : p.source.NoSurrogates) :
    p.eval env = .ok s ↔ Gives env p s := by
  constructor
  · intro heval
    rcases gives_or_lacks env p with ⟨s', hgives⟩ | ⟨fault, hlacks⟩
    · obtain rfl : s' = s := Except.ok.inj ((hgives.eval_eq h).symm.trans heval)
      exact hgives
    · cases (hlacks.eval_eq h).symm.trans heval
  · intro hgives
    exact hgives.eval_eq h

theorem eval_eq_error_iff {fault : TemplateError} (h : p.source.NoSurrogates) :
    p.eval env = .error fault ↔ Lacks env p fault := by
  constructor
  · intro heval
    rcases gives_or_lacks env p with ⟨s, hgives⟩ | ⟨fault', hlacks⟩
    · cases (hgives.eval_eq h).symm.trans heval
    · obtain rfl : fault' = fault := Except.error.inj ((hlacks.eval_eq h).symm.trans heval)
      exact hlacks
  · intro hlacks
    exact hlacks.eval_eq h

/-! ## What substitution gives -/

theorem exists_eval_eq_ok_iff (h : p.source.NoSurrogates) :
    (∃ s, p.eval env = .ok s) ↔ ∀ fault, ¬Lacks env p fault := by
  constructor
  · rintro ⟨s, heval⟩ fault hlacks
    cases heval.symm.trans (hlacks.eval_eq h)
  · intro hlacks
    rcases gives_or_lacks env p with ⟨s, hgives⟩ | ⟨fault, hfault⟩
    · exact ⟨s, hgives.eval_eq h⟩
    · exact absurd hfault (hlacks fault)

theorem fill_eq_ok_iff (h : ∀ p ∈ ps, p.source.NoSurrogates) {s : Text} :
    fill env ps = .ok s
      ↔ ∃ values, List.Forall₂ (Gives env) ps values ∧ s = values.flatten := by
  rw [fill, map_eq_ok]
  constructor
  · rintro ⟨values, hvalues, rfl⟩
    refine ⟨values, ?_, rfl⟩
    exact ((List.forall₂_and_left _ _).mpr ⟨h, mapM_eq_ok.mp hvalues⟩).imp
      fun p value hp => (eval_eq_ok_iff hp.1).mp hp.2
  · rintro ⟨values, hvalues, rfl⟩
    refine ⟨values, mapM_eq_ok.mpr ?_, rfl⟩
    exact ((List.forall₂_and_left _ _).mpr ⟨h, hvalues⟩).imp
      fun p value hp => (eval_eq_ok_iff hp.1).mpr hp.2

theorem fill_eq_error_iff (h : ∀ p ∈ ps, p.source.NoSurrogates) {fault : TemplateError} :
    fill env ps = .error fault
      ↔ ∃ before p after, ps = before ++ p :: after
        ∧ (∀ q ∈ before, ∀ other, ¬Lacks env q other) ∧ Lacks env p fault := by
  rw [fill, map_eq_error, mapM_eq_error]
  constructor
  · rintro ⟨before, p, after, rfl, hbefore, hp⟩
    obtain ⟨hbefores, hrest⟩ := List.forall_mem_append.mp h
    have hsource := (List.forall_mem_cons.mp hrest).1
    refine ⟨before, p, after, rfl, ?_, (eval_eq_error_iff hsource).mp hp⟩
    intro q hq
    exact (exists_eval_eq_ok_iff (hbefores q hq)).mp (hbefore q hq)
  · rintro ⟨before, p, after, rfl, hbefore, hp⟩
    obtain ⟨hbefores, hrest⟩ := List.forall_mem_append.mp h
    have hsource := (List.forall_mem_cons.mp hrest).1
    refine ⟨before, p, after, rfl, ?_, (eval_eq_error_iff hsource).mpr hp⟩
    intro q hq
    exact (exists_eval_eq_ok_iff (hbefores q hq)).mpr (hbefore q hq)

/-- A template of Unicode characters is substituted part by part. It has a text exactly if no part
lacks its variable, and otherwise the error of the first that does; two templates together give what
each gives, if the first ends where a line does. -/
theorem substitute_reference (env : Environment) {t : Text} (ht : t.NoSurrogates) :
    ∃ ps, Consists t ps ∧ (∀ qs, Consists t qs → qs = ps)
      ∧ (∀ s, substitute env t = .ok s
          ↔ ∃ values, List.Forall₂ (Gives env) ps values ∧ s = values.flatten)
      ∧ ((∃ fault, substitute env t = .error fault) ↔ ∃ p ∈ ps, ∃ fault, Lacks env p fault)
      ∧ (∀ fault, substitute env t = .error fault
          ↔ ∃ before p after, ps = before ++ p :: after
            ∧ (∀ q ∈ before, ∀ other, ¬Lacks env q other) ∧ Lacks env p fault)
      ∧ ∀ a b, t = a ++ b → (∀ c ∈ a.getLast?, c.isLineBoundary = true) →
          substitute env t = do
            let x ← substitute env a
            let y ← substitute env b
            return x ++ y := by
  obtain ⟨ps, hps⟩ := exists_consists t
  have hsource : ∀ p ∈ ps, p.source.NoSurrogates :=
    fun p hp c hc => ht c (hps.source_subset hp c hc)
  have herror : ∀ fault, substitute env t = .error fault
      ↔ ∃ before p after, ps = before ++ p :: after
        ∧ (∀ q ∈ before, ∀ other, ¬Lacks env q other) ∧ Lacks env p fault := by
    intro fault
    rw [substitute_eq_fill hps, fill_eq_error_iff hsource]
  have hok : ∀ s, substitute env t = .ok s
      ↔ ∃ values, List.Forall₂ (Gives env) ps values ∧ s = values.flatten := by
    intro s
    rw [substitute_eq_fill hps, fill_eq_ok_iff hsource]
  refine ⟨ps, hps, fun qs => hps.unique, hok, ?_, herror, ?_⟩
  · constructor
    · rintro ⟨fault, hfault⟩
      obtain ⟨before, p, after, rfl, -, hp⟩ := (herror fault).mp hfault
      exact ⟨p, List.mem_append_right _ List.mem_cons_self, fault, hp⟩
    · rintro ⟨p, hp, fault, hlacks⟩
      cases hresult : substitute env t with
      | error other => exact ⟨other, rfl⟩
      | ok s =>
        obtain ⟨values, hvalues, -⟩ := (hok s).mp hresult
        obtain ⟨value, hgives⟩ := exists_forall₂_iff.mp ⟨values, hvalues⟩ p hp
        cases (hgives.eval_eq (hsource p hp)).symm.trans (hlacks.eval_eq (hsource p hp))
  · rintro a b rfl hboundary
    exact substitute_append hboundary

/-- A comment with a placeholder, a placeholder, and one inside the expression of another. -/
def nested : Text :=
  Text.ofString "# $\x7bA\x7d\r\n x $\x7bA\x7d$\x7b$\x7bB:-$\x7bC\x7d\x7d\n"

/-- The value of the variable is not substituted again, and without the variable it is the first
placeholder outside the comment that fails. -/
theorem substitute_reference_nested :
    nested.NoSurrogates
      ∧ (∃ ps values, Consists nested ps
        ∧ List.Forall₂ (Gives [(Text.ofString "A", Text.ofString "$\x7bA\x7d")]) ps values
        ∧ values.flatten = Text.ofString "# $\x7bA\x7d\r\n x $\x7bA\x7d$\x7bC\x7d\n")
      ∧ ∃ before p after, Consists nested (before ++ p :: after)
        ∧ (∀ q ∈ before, ∀ other, ¬Lacks [] q other)
        ∧ Lacks [] p (.unset (Text.ofString "A")) := by
  have hnested : nested.NoSurrogates := by decide +kernel
  refine ⟨hnested, ?_, ?_⟩
  · obtain ⟨ps, hps, -, hok, -⟩ := substitute_reference
      [(Text.ofString "A", Text.ofString "$\x7bA\x7d")] hnested
    obtain ⟨values, hvalues, heq⟩ :=
      (hok (Text.ofString "# $\x7bA\x7d\r\n x $\x7bA\x7d$\x7bC\x7d\n")).mp (by decide +kernel)
    exact ⟨ps, values, hps, hvalues, heq.symm⟩
  · obtain ⟨ps, hps, -, -, -, herror, -⟩ := substitute_reference [] hnested
    obtain ⟨before, p, after, rfl, hbefore, hp⟩ :=
      (herror (.unset (Text.ofString "A"))).mp (by decide +kernel)
    exact ⟨before, p, after, hps, hbefore, hp⟩

end Registry.Template
