import Registry.Config.Assign
import Registry.Proofs.Config.Overriding

/-!
# Putting an override together

An override is made of sections that are given, and sections and settings are assigned on it
afterwards. It sets exactly the settings of the sections that were given or assigned and those that
were assigned by themselves (`ConfigTree.sets_assignAll`, `ConfigTree.sets_ofInputs`), and if only
values that can be read were assigned, all of its values can be read.
-/

namespace Registry

namespace ConfigTree

/-! ## Fields that are put in place -/

theorem input?_putField (fields : List (Text × ConfigTree)) (m n : Text) (u : ConfigTree) :
    input? (putField fields m u) n = if m = n then some u else input? fields n := by
  induction fields with
  | nil => rw [putField, input?_cons]
  | cons f rest ih =>
    obtain ⟨k, t⟩ := f
    rw [putField]
    by_cases hk : k = m
    · subst hk
      rw [if_pos rfl, input?_cons, input?_cons]
      split <;> rfl
    · rw [if_neg hk, input?_cons, input?_cons, ih]
      by_cases hn : m = n
      · subst hn
        simp only [if_neg hk, if_true]
      · simp only [if_neg hn]

theorem publicFields_putField {n : Text} (hn : isPrivate n = false)
    (fields : List (Text × ConfigTree)) (u : ConfigTree) :
    publicFields (putField fields n u) = putField (publicFields fields) n u := by
  unfold publicFields
  induction fields with
  | nil => simp [putField, hn]
  | cons f rest ih =>
    obtain ⟨k, t⟩ := f
    rw [putField, List.filter_cons]
    by_cases hk : k = n
    · subst hk
      simp [putField, hn]
    · rw [if_neg hk, List.filter_cons, ih]
      cases isPrivate k with
      | true => rfl
      | false => simp [putField, hk]

/-- A tree that fits an item can be put in the place of its field. -/
theorem FieldsOf.putField {α : Type} {name : α → Text} {Fits : α → ConfigTree → Prop}
    {items : List α} {fields : List (Text × ConfigTree)} (h : FieldsOf name Fits items fields)
    (hdistinct : (items.map name).Nodup) {a : α} (ha : a ∈ items)
    (hpublic : isPrivate (name a) = false) {u : ConfigTree} (hu : Fits a u) :
    FieldsOf name Fits items (ConfigTree.putField fields (name a) u) := by
  unfold FieldsOf at h ⊢
  rw [publicFields_putField hpublic]
  generalize publicFields fields = fs at h ⊢
  induction h with
  | nil => cases ha
  | cons h hrest ih =>
    obtain ⟨t, rfl, ht⟩ := h
    rw [List.map_cons, List.nodup_cons] at hdistinct
    rw [ConfigTree.putField]
    rcases List.mem_cons.mp ha with rfl | ha
    · rw [if_pos rfl]
      exact .cons ⟨u, rfl, hu⟩ hrest
    · rw [if_neg fun heq : name _ = name a => hdistinct.1 (heq ▸ List.mem_map_of_mem ha)]
      exact .cons ⟨t, rfl, ht⟩ (ih hdistinct.2 ha)

/-! ## One assignment -/

/-- A field that is no private one is assigned in its place and marked. -/
theorem assign_field_eq_ok {t t' u : ConfigTree} {h : Host} {n : Text} (hn : isPrivate n = false)
    (ht : t.assign h [n] u = .ok t') :
    ∃ kind fields names, t = model kind fields names
      ∧ t' = model kind (putField fields n u) (n :: names) := by
  cases t with
  | leaf v => cases ht
  | model kind fields names =>
    rw [assign, assignField, hn, if_neg Bool.false_ne_true] at ht
    split at ht
    · cases ht
      exact ⟨kind, fields, names, rfl, rfl⟩
    · split at ht <;> cases ht

/-- Inside of a model that is a field, the assignment takes place there. -/
theorem assign_inner_eq_ok {t t' u : ConfigTree} {h : Host} {n m : Text}
    (ht : t.assign h [n, m] u = .ok t') :
    ∃ kind fields names inner inner', t = model kind fields names ∧ input? fields n = some inner
      ∧ inner.assign h [m] u = .ok inner' ∧ t' = model kind (putField fields n inner') names := by
  cases t with
  | leaf v => cases ht
  | model kind fields names =>
    rw [assign] at ht
    split at ht
    · next inner hinner =>
      obtain ⟨inner', hinner', rfl⟩ := map_eq_ok.mp ht
      exact ⟨kind, fields, names, inner, inner', rfl, hinner, hinner', rfl⟩
    · cases ht
    · simp

theorem setting_model (kind : ModelKind) (fields : List (Text × ConfigTree)) (names : List Text)
    (n : Text) : (model kind fields names).setting n = (input? fields n).getD (leaf .null) := by
  rw [setting, get?]
  cases input? fields n <;> rfl

/-- A section that is assigned is set as a whole, and nothing else changes. -/
theorem sets_assign_section {t t' u : ConfigTree} {h : Host} {s : Section}
    (ht : t.assign h [s.name] u = .ok t') (s' : Section) (x : Setting) :
    t'.sets s' x = (decide (s' = s) || t.sets s' x) := by
  obtain ⟨kind, fields, names, rfl, rfl⟩ := assign_field_eq_ok s.isPrivate_name ht
  rw [sets, sets, marks, marks, setting_model, setting_model, input?_putField]
  by_cases hs : s' = s
  · subst hs
    simp
  · have hname : s.name ≠ s'.name := fun heq => hs (Section.name_injective heq).symm
    simp [hs, hname, Ne.symm hname]

/-- A setting that is assigned is set by itself, and nothing else changes. -/
theorem sets_assign_setting {t t' u : ConfigTree} {h : Host} {s : Section} {x : Setting}
    (hx : x ∈ s.settings) (ht : t.assign h [s.name, x.name] u = .ok t') (s' : Section)
    (x' : Setting) :
    t'.sets s' x' = (decide (s' = s ∧ x'.name = x.name) || t.sets s' x') := by
  obtain ⟨kind, fields, names, inner, inner', rfl, hinner, hassign, rfl⟩ := assign_inner_eq_ok ht
  obtain ⟨skind, sfields, snames, rfl, rfl⟩ :=
    assign_field_eq_ok (Section.isPrivate_setting hx) hassign
  rw [sets, sets, marks, marks, setting_model, setting_model, input?_putField]
  by_cases hs : s' = s
  · subst hs
    rw [if_pos rfl, hinner, Option.getD_some, Option.getD_some, marks, marks, List.contains_cons]
    by_cases hname : x'.name = x.name
    · simp [hname]
    · simp [hname, beq_eq_false_iff_ne.mpr hname]
  · have hname : s.name ≠ s'.name := fun heq => hs (Section.name_injective heq).symm
    simp [hs, hname]

/-- Assigning the model of a section keeps the kind of values. -/
theorem ConfigWith.assign_section {P : Setting → Value → Prop} {t t' u : ConfigTree}
    (hP : t.ConfigWith P) {h : Host} {s : Section} (hu : u.SectionWith P s)
    (ht : t.assign h [s.name] u = .ok t') : t'.ConfigWith P := by
  obtain ⟨fields, names, rfl, hfields⟩ := hP
  obtain ⟨kind, _, _, heq, rfl⟩ := assign_field_eq_ok s.isPrivate_name ht
  cases heq
  exact ⟨_, _, rfl, hfields.putField Section.nodup_names s.mem_all s.isPrivate_name hu⟩

/-- Assigning a value of the kind keeps it. -/
theorem ConfigWith.assign_setting {P : Setting → Value → Prop} {t t' : ConfigTree}
    (hP : t.ConfigWith P) {h : Host} {s : Section} {x : Setting} (hx : x ∈ s.settings) {v : Value}
    (hv : P x v) (ht : t.assign h [s.name, x.name] (leaf v) = .ok t') : t'.ConfigWith P := by
  obtain ⟨fields, names, rfl, hfields⟩ := hP
  obtain ⟨kind, _, _, inner, inner', heq, hinner, hassign, rfl⟩ := assign_inner_eq_ok ht
  cases heq
  obtain ⟨u, hu, sfields, snames, rfl, hsfields⟩ :=
    hfields.input? Section.nodup_names s.mem_all s.isPrivate_name
  cases hinner.symm.trans hu
  obtain ⟨_, _, _, heq, rfl⟩ := assign_field_eq_ok (Section.isPrivate_setting hx) hassign
  cases heq
  refine ⟨_, _, rfl, hfields.putField Section.nodup_names s.mem_all s.isPrivate_name
    ⟨_, _, rfl, hsfields.putField s.nodup_settings hx (Section.isPrivate_setting hx) ⟨v, rfl, hv⟩⟩⟩

end ConfigTree

/-! ## A whole override -/

/-- What is assigned on a configuration: a section as a whole, or one of its settings. -/
inductive Assignment
  | whole (s : Section) (t : ConfigTree)
  | single (s : Section) (x : Setting) (hx : x ∈ s.settings) (t : ConfigTree)

namespace Assignment

def path : Assignment → List Text
  | whole s _ => [s.name]
  | single s x _ _ => [s.name, x.name]

def tree : Assignment → ConfigTree
  | whole _ t => t
  | single _ _ _ t => t

/-- A setting is among what is assigned. -/
def covers (a : Assignment) (s : Section) (x : Setting) : Bool :=
  match a with
  | whole s' _ => decide (s = s')
  | single s' x' _ _ => decide (s = s' ∧ x.name = x'.name)

/-- What is assigned is the model of the section, or a value of the setting, and can be read. -/
def IsReadable : Assignment → Prop
  | whole s t => t.SectionWith Setting.Reads s
  | single _ x _ t => ∃ v, t = .leaf v ∧ x.Reads v

end Assignment

namespace ConfigTree

/-- Assigns one thing after the other. -/
def assignAll (t : ConfigTree) (h : Host) (as : List Assignment) : Except AssignError ConfigTree :=
  as.foldlM (fun t a => t.assign h a.path a.tree) t

theorem sets_assign {t t' : ConfigTree} {h : Host} {a : Assignment}
    (ht : t.assign h a.path a.tree = .ok t') (s : Section) (x : Setting) :
    t'.sets s x = (a.covers s x || t.sets s x) := by
  cases a with
  | whole s' u => exact sets_assign_section ht s x
  | single s' x' hx' u => exact sets_assign_setting hx' ht s x

theorem readable_assign {t t' : ConfigTree} (hreadable : t.Readable) {h : Host} {a : Assignment}
    (ha : a.IsReadable) (ht : t.assign h a.path a.tree = .ok t') : t'.Readable := by
  cases a with
  | whole s u => exact hreadable.assign_section ha ht
  | single s x hx u =>
    obtain ⟨v, rfl, hv⟩ := ha
    exact hreadable.assign_setting hx hv ht

/-- After assignments exactly what was set before and what they cover is set. -/
theorem sets_assignAll {t t' : ConfigTree} {h : Host} {as : List Assignment}
    (ht : t.assignAll h as = .ok t') (s : Section) (x : Setting) :
    t'.sets s x = (t.sets s x || as.any (·.covers s x)) := by
  unfold assignAll at ht
  induction as generalizing t with
  | nil =>
    cases ht
    exact (Bool.or_false _).symm
  | cons a as ih =>
    rw [List.foldlM_cons] at ht
    obtain ⟨t₁, h₁, ht⟩ := bind_eq_ok.mp ht
    rw [ih ht, sets_assign h₁, List.any_cons, Bool.or_comm (a.covers s x), Bool.or_assoc]

theorem readable_assignAll {t t' : ConfigTree} (hreadable : t.Readable) {h : Host}
    {as : List Assignment} (has : ∀ a ∈ as, a.IsReadable) (ht : t.assignAll h as = .ok t') :
    t'.Readable :=
  foldlM_preserves (fun a ha _ _ hu h => readable_assign hu (has a ha) h) hreadable ht

/-- A configuration that is made of inputs sets the sections that are among them, as a whole. -/
theorem sets_ofInputs {inputs : ModelInputs} {t : ConfigTree}
    (ht : ofInputs .config inputs = .ok t) (s : Section) (x : Setting) :
    t.sets s x = (input? inputs s.name).isSome := by
  obtain ⟨fields, hfields, rfl⟩ := map_eq_ok.mp ht
  have hrows := readSections_eq_ok_iff.mp hfields
  obtain ⟨u, hu, htake⟩ := (FieldsOf.of_forall₂ hrows fun s _ => s.isPrivate_name).input?
    Section.nodup_names s.mem_all s.isPrivate_name
  rw [sets, marks, setting_model, hu, Option.getD_some]
  cases hs : input? inputs s.name with
  | some w =>
    have hgiven : s.name ∈ givenNames inputs (Section.all.map (·.name)) :=
      List.mem_filter.mpr ⟨List.mem_map_of_mem s.mem_all, by rw [hs]; rfl⟩
    simp [hgiven]
  | none =>
    have hgiven : s.name ∉ givenNames inputs (Section.all.map (·.name)) := fun hmem => by
      simp [givenNames, hs] at hmem
    rw [takeSection, hs] at htake
    cases htake
    simp [hgiven, standardSection, marks]

/-- An override that is made of sections and assigned on afterwards sets what was given or assigned,
and nothing else. -/
theorem sets_composed {inputs : ModelInputs} {t o : ConfigTree} {h : Host} {as : List Assignment}
    (ht : ofInputs .config inputs = .ok t) (ho : t.assignAll h as = .ok o) (s : Section)
    (x : Setting) :
    o.sets s x = ((input? inputs s.name).isSome || as.any (·.covers s x)) := by
  rw [sets_assignAll ho, sets_ofInputs ht]

end ConfigTree

end Registry
