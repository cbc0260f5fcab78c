import Registry.Config
import Registry.Proofs.Config.Settings

/-!
# Well-formed configurations

A configuration is well-formed if each of its sections is a model of its own and every setting holds
what it may (`ConfigTree.WellFormed`). One that is made of values alone is well-formed
(`ConfigTree.ofInputs_formed`), so whatever a block is entered with, the configuration inside of it
is well-formed if the one outside is (`Scope.overridden_formed`).
-/

namespace Registry

namespace ConfigTree

/-! ## Fields -/

/-- The fields that are no private ones. -/
def publicFields (fields : List (Text × ConfigTree)) : List (Text × ConfigTree) :=
  fields.filter fun f => !isPrivate f.1

/-- The fields are those of given items: each item has one with its name, and the tree in it fits
the item. -/
def FieldsOf {α : Type} (name : α → Text) (Fits : α → ConfigTree → Prop) (items : List α)
    (fields : List (Text × ConfigTree)) : Prop :=
  List.Forall₂ (fun a f => ∃ t, f = (name a, t) ∧ Fits a t) items (publicFields fields)

/-- The fields are the settings of a section, with values of a certain kind. -/
def SettingsWith (P : Setting → Value → Prop) (s : Section) (fields : List (Text × ConfigTree)) :
    Prop :=
  FieldsOf Setting.name (fun x t => ∃ v, t = leaf v ∧ P x v) s.settings fields

/-- The model of a section, with values of a certain kind as its settings. -/
def SectionWith (P : Setting → Value → Prop) (s : Section) (t : ConfigTree) : Prop :=
  ∃ fields explicit, t = model (.part s) fields explicit ∧ SettingsWith P s fields

/-- A configuration whose sections are models of their own, with values of a certain kind as their
settings. -/
def ConfigWith (P : Setting → Value → Prop) (t : ConfigTree) : Prop :=
  ∃ fields explicit, t = model .config fields explicit ∧
    FieldsOf Section.name (SectionWith P) Section.all fields

/-- Every setting holds what it may. -/
def WellFormed (t : ConfigTree) : Prop := t.ConfigWith Setting.Holds

/-- Every setting has a value that can be read for it. -/
def Readable (t : ConfigTree) : Prop := t.ConfigWith Setting.Reads

/-- Private fields are passed over when a public one is looked up. -/
theorem input?_publicFields {n : Text} (hn : isPrivate n = false)
    (fields : List (Text × ConfigTree)) : input? (publicFields fields) n = input? fields n := by
  induction fields with
  | nil => rfl
  | cons f rest ih =>
    obtain ⟨m, t⟩ := f
    unfold publicFields at ih ⊢
    rw [List.filter_cons, input?_cons]
    split
    · rw [input?_cons, ih]
    · next hm =>
      rw [ih, if_neg]
      rintro rfl
      simp [hn] at hm

theorem FieldsOf.map_fst {α : Type} {name : α → Text} {Fits : α → ConfigTree → Prop}
    {items : List α} {fields : List (Text × ConfigTree)} (h : FieldsOf name Fits items fields) :
    (publicFields fields).map Prod.fst = items.map name := by
  unfold FieldsOf at h
  generalize publicFields fields = fs at h
  induction h with
  | nil => rfl
  | cons h _ ih =>
    obtain ⟨t, rfl, -⟩ := h
    rw [List.map_cons, List.map_cons, ih]

theorem FieldsOf.nodup {α : Type} {name : α → Text} {Fits : α → ConfigTree → Prop}
    {items : List α} {fields : List (Text × ConfigTree)} (h : FieldsOf name Fits items fields)
    (hdistinct : (items.map name).Nodup) : ((publicFields fields).map Prod.fst).Nodup :=
  h.map_fst ▸ hdistinct

/-- The field of an item is found under its name. -/
theorem FieldsOf.input? {α : Type} {name : α → Text} {Fits : α → ConfigTree → Prop}
    {items : List α} {fields : List (Text × ConfigTree)} (h : FieldsOf name Fits items fields)
    (hdistinct : (items.map name).Nodup) {a : α} (ha : a ∈ items)
    (hpublic : isPrivate (name a) = false) :
    ∃ t, ConfigTree.input? fields (name a) = some t ∧ Fits a t := by
  rw [← input?_publicFields hpublic]
  unfold FieldsOf at h
  generalize publicFields fields = fs at h
  induction h with
  | nil => cases ha
  | cons h _ ih =>
    obtain ⟨t, rfl, ht⟩ := h
    rw [List.map_cons, List.nodup_cons] at hdistinct
    rw [input?_cons]
    rcases List.mem_cons.mp ha with rfl | ha
    · exact ⟨t, if_pos rfl, ht⟩
    · rw [if_neg fun heq : name _ = name a => hdistinct.1 (heq ▸ List.mem_map_of_mem ha)]
      exact ih hdistinct.2 ha

theorem FieldsOf.imp {α : Type} {name : α → Text} {Fits Fits' : α → ConfigTree → Prop}
    {items : List α} {fields : List (Text × ConfigTree)} (h : FieldsOf name Fits items fields)
    (himp : ∀ a t, Fits a t → Fits' a t) : FieldsOf name Fits' items fields :=
  List.Forall₂.imp (fun _ _ ⟨t, hf, ht⟩ => ⟨t, hf, himp _ _ ht⟩) h

theorem SectionWith.imp {P Q : Setting → Value → Prop} {s : Section} {t : ConfigTree}
    (h : t.SectionWith P s) (hPQ : ∀ x v, P x v → Q x v) : t.SectionWith Q s := by
  obtain ⟨fields, explicit, rfl, hfields⟩ := h
  refine ⟨fields, explicit, rfl, hfields.imp ?_⟩
  rintro x u ⟨v, rfl, hv⟩
  exact ⟨v, rfl, hPQ x v hv⟩

theorem ConfigWith.imp {P Q : Setting → Value → Prop} {t : ConfigTree} (h : t.ConfigWith P)
    (hPQ : ∀ x v, P x v → Q x v) : t.ConfigWith Q := by
  obtain ⟨fields, explicit, rfl, hfields⟩ := h
  exact ⟨fields, explicit, rfl, hfields.imp fun s u hu => hu.imp hPQ⟩

theorem WellFormed.readable {t : ConfigTree} (h : t.WellFormed) : t.Readable :=
  h.imp fun _ _ hv => hv.reads

/-- The setting of a section is found there. -/
theorem SectionWith.setting {P : Setting → Value → Prop} {s : Section} {t : ConfigTree}
    (h : t.SectionWith P s) {x : Setting} (hx : x ∈ s.settings) :
    ∃ v, t.get? [x.name] = some (leaf v) ∧ P x v := by
  obtain ⟨fields, explicit, rfl, hfields⟩ := h
  obtain ⟨t, hinput, v, rfl, hv⟩ :=
    hfields.input? s.nodup_settings hx (Section.isPrivate_setting hx)
  exact ⟨v, by rw [get?, hinput]; rfl, hv⟩

theorem ConfigWith.section {P : Setting → Value → Prop} {t : ConfigTree} (h : t.ConfigWith P)
    (s : Section) : ∃ u, t.get? [s.name] = some u ∧ u.SectionWith P s := by
  obtain ⟨fields, explicit, rfl, hfields⟩ := h
  obtain ⟨u, hinput, hu⟩ := hfields.input? Section.nodup_names s.mem_all s.isPrivate_name
  exact ⟨u, by rw [get?, hinput]; rfl, hu⟩

theorem get?_cons (t : ConfigTree) (n : Text) (rest : List Text) :
    t.get? (n :: rest) = (t.get? [n]).bind fun u => u.get? rest := by
  cases t with
  | leaf v => rfl
  | model kind fields explicit =>
    rw [get?, get?]
    cases input? fields n <;> rfl

/-- Every setting of a configuration is a value of the kind. -/
theorem ConfigWith.setting {P : Setting → Value → Prop} {t : ConfigTree} (h : t.ConfigWith P)
    {s : Section} {x : Setting} (hx : x ∈ s.settings) :
    ∃ v, t.get? [s.name, x.name] = some (leaf v) ∧ P x v := by
  obtain ⟨u, hu, hsection⟩ := h.section s
  obtain ⟨v, hv, hP⟩ := hsection.setting hx
  exact ⟨v, by rw [get?_cons, hu, Option.bind_some, hv], hP⟩

/-! ## What inputs make -/

/-- Fields whose names are those of items, none of them private, are the fields of the items. -/
theorem FieldsOf.of_forall₂ {α : Type} {name : α → Text} {Fits : α → ConfigTree → Prop}
    {items : List α} {fields : List (Text × ConfigTree)}
    (h : List.Forall₂ (fun a f => ∃ t, f = (name a, t) ∧ Fits a t) items fields)
    (hpublic : ∀ a ∈ items, isPrivate (name a) = false) : FieldsOf name Fits items fields := by
  have hall : publicFields fields = fields := by
    unfold publicFields
    induction h with
    | nil => rfl
    | cons h _ ih =>
      obtain ⟨t, rfl, -⟩ := h
      rw [List.filter_cons, if_pos (by rw [hpublic _ List.mem_cons_self]; rfl),
        ih fun a ha => hpublic a (List.mem_cons_of_mem _ ha)]
  unfold FieldsOf
  rwa [hall]

theorem takeSetting_holds {inputs : ModelInputs} {x : Setting} (hx : x.Holds x.default)
    {v : Value} (h : takeSetting inputs x = .ok v) : x.Holds v := by
  unfold takeSetting at h
  split at h
  · next t _ =>
    cases t with
    | leaf w => exact SettingKind.read_holds h
    | model kind fields explicit => cases h
  · cases h
    exact hx

/-- A section that is made of inputs takes its settings of them. -/
theorem section?_takes {s : Section} {inputs : ModelInputs} {t : ConfigTree}
    (h : section? s inputs = .ok t) :
    t.SectionWith (fun x v => x.Holds v ∧ takeSetting inputs x = .ok v) s := by
  obtain ⟨fields, hfields, rfl⟩ := map_eq_ok.mp h
  refine ⟨fields, _, rfl, FieldsOf.of_forall₂ ?_ fun x hx => Section.isPrivate_setting hx⟩
  have hrows := (List.forall₂_and_left _ _).mpr
    ⟨fun x hx => Section.default_holds (s := s) hx, readSettings_eq_ok_iff.mp hfields⟩
  refine hrows.imp ?_
  rintro x f ⟨hdefault, v, rfl, hv⟩
  exact ⟨leaf v, rfl, v, rfl, takeSetting_holds hdefault hv, hv⟩

theorem section?_formed {s : Section} {inputs : ModelInputs} {t : ConfigTree}
    (h : section? s inputs = .ok t) : t.SectionWith Setting.Holds s :=
  (section?_takes h).imp fun _ _ hv => hv.1

theorem standardSection_formed (s : Section) :
    (standardSection s).SectionWith Setting.Holds s := by
  have h : section? s [] = .ok (standardSection s) := by cases s <;> rfl
  exact section?_formed h

/-- A section that is made of a value is a model of its own, and its settings hold what they may. -/
theorem readSection_formed {s : Section} {v : Value} {t : ConfigTree}
    (h : readSection s (leaf v) = .ok t) : t.SectionWith Setting.Holds s := by
  unfold readSection at h
  split at h
  · next heq => cases heq
  · exact section?_formed h
  · cases h

/-- A configuration that is made of values and of sections of a kind is of this kind, if all values
that settings may hold are. -/
theorem ofInputs_configWith {P : Setting → Value → Prop} (hP : ∀ x v, x.Holds v → P x v)
    {inputs : ModelInputs} {t : ConfigTree}
    (hinputs : ∀ (s : Section) u, input? inputs s.name = some u →
      (∃ v, u = leaf v) ∨ u.SectionWith P s)
    (h : ofInputs .config inputs = .ok t) : t.ConfigWith P := by
  obtain ⟨fields, hfields, rfl⟩ := map_eq_ok.mp h
  refine ⟨fields, _, rfl, FieldsOf.of_forall₂ ?_ fun s _ => s.isPrivate_name⟩
  refine (readSections_eq_ok_iff.mp hfields).imp ?_
  rintro s f ⟨u, rfl, hu⟩
  refine ⟨u, rfl, ?_⟩
  unfold takeSection at hu
  split at hu
  · next w hw =>
    have hu := mapError_eq_ok.mp hu
    rcases hinputs s w hw with ⟨v, rfl⟩ | hw
    · exact (readSection_formed hu).imp hP
    · obtain ⟨fields, explicit, rfl, hfields⟩ := hw
      rw [readSection, if_pos rfl] at hu
      cases hu
      exact ⟨fields, explicit, rfl, hfields⟩
  · cases hu
    exact (standardSection_formed s).imp hP

/-- A configuration that is made of values alone is well-formed. -/
theorem ofInputs_formed {inputs : ModelInputs} {t : ConfigTree}
    (hvalues : ∀ n u, input? inputs n = some u → ∃ v, u = leaf v)
    (h : ofInputs .config inputs = .ok t) : t.WellFormed :=
  ofInputs_configWith (fun _ _ hv => hv) (fun s u hu => .inl (hvalues s.name u hu)) h

theorem standard_formed : standard.WellFormed := by
  have h : ofInputs .config [] = .ok standard := rfl
  refine ofInputs_formed ?_ h
  nofun

theorem namedEntries_values {es : List (Value × Value)} {n : Text} {u : ConfigTree}
    (h : input? (namedEntries es) n = some u) : ∃ v, u = leaf v := by
  rw [input?_namedEntries] at h
  obtain ⟨v, -, rfl⟩ := Option.map_eq_some_iff.mp h
  exact ⟨v, rfl⟩

/-- Whatever stands in the trees, a configuration that is overridden is well-formed. -/
theorem overriddenBy_formed {base override t : ConfigTree}
    (h : base.overriddenBy override = .ok t) : t.WellFormed :=
  ofInputs_formed (fun _ _ => namedEntries_values) h

end ConfigTree

namespace Scope

theorem overridden_config (c : ConfigTree) (fields : List (Text × ConfigTree))
    (explicit : List Text) :
    overridden c (.tree (.model .config fields explicit))
      = if c.plain.isCircular || (ConfigTree.model .config fields explicit).blocked then
          .error .circular
        else (c.overriddenBy (.model .config fields explicit)).mapError .invalid := rfl

/-- Inside a block the configuration is well-formed if it is outside of it. -/
theorem overridden_formed {c c' : ConfigTree} {o : Override} (hc : c.WellFormed)
    (h : overridden c o = .ok c') : c'.WellFormed := by
  cases o with
  | nothing =>
    cases h
    exact hc
  | value v => cases h
  | tree t =>
    cases t with
    | leaf v => cases h
    | model kind fields explicit =>
      cases kind with
      | part s => cases h
      | config =>
        rw [overridden_config] at h
        split at h
        · cases h
        · exact ConfigTree.overriddenBy_formed (mapError_eq_ok.mp h)

end Scope

end Registry
