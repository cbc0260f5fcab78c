import Mathlib.Data.List.Nodup
import Registry.Proofs.Config.Formed

/-!
# Overriding, setting by setting

An override sets a setting if its section was set as a whole, or if the setting itself was
(`ConfigTree.sets`). On a well-formed configuration, an override whose values can be read gives the
configuration that has the value of the override, as it is read, where the override sets it, and
the old value elsewhere (`Scope.overridden_eq`).
-/

namespace Registry

namespace ConfigTree

/-! ## What an override sets -/

/-- The tree is a model with a field that was set explicitly. -/
def marks : ConfigTree → Text → Bool
  | leaf _, _ => false
  | model _ _ explicit, name => explicit.contains name

/-- The setting of a section was set explicitly, by itself or with the whole section. -/
def sets (o : ConfigTree) (s : Section) (x : Setting) : Bool :=
  o.marks s.name || (o.setting s.name).marks x.name

def value (t : ConfigTree) (s : Section) (x : Setting) : Value :=
  ((t.setting s.name).setting x.name).plain

/-- The value of a setting as it is read, the standard one if it cannot be read. -/
def coerced (t : ConfigTree) (s : Section) (x : Setting) : Value :=
  match x.kind.read (t.value s x) with
  | .ok v => v
  | .error _ => x.default

/-- The model of a section with all of its settings given. -/
def filledSection (s : Section) (w : Setting → Value) : ConfigTree :=
  model (.part s) (s.settings.map fun x => (x.name, leaf (w x))) (s.settings.map (·.name))

/-- The configuration with all settings given. -/
def filled (w : Section → Setting → Value) : ConfigTree :=
  model .config (Section.all.map fun s => (s.name, filledSection s (w s)))
    (Section.all.map (·.name))

/-- A configuration with what another one sets. -/
def overlaid (base o : ConfigTree) : ConfigTree :=
  filled fun s x => (if o.sets s x then o else base).coerced s x

/-! ## Looking up what is written out -/

theorem plainFields_eq (fields : List (Text × ConfigTree)) :
    plainFields fields = (publicFields fields).map fun f => (.text f.1, f.2.plain) := by
  induction fields with
  | nil => rfl
  | cons f rest ih =>
    obtain ⟨m, t⟩ := f
    unfold publicFields at ih ⊢
    rw [plainFields, List.filter_cons, ih]
    cases isPrivate m <;> rfl

/-- What of a field was set explicitly. -/
def setPart? (names : List Text) (name : Text) (t : ConfigTree) : Option Value :=
  if names.contains name then some t.plain
  else
    match t.explicit with
    | [] => none
    | nested => some (.dict nested)

theorem explicitFields_cons (names : List Text) (m : Text) (t : ConfigTree)
    (rest : List (Text × ConfigTree)) :
    explicitFields names ((m, t) :: rest)
      = if isPrivate m then explicitFields names rest
        else ((setPart? names m t).map fun v => (.text m, v)).toList
          ++ explicitFields names rest := by
  cases hm : isPrivate m with
  | true => exact if_pos hm
  | false =>
    refine (if_neg (Bool.not_eq_true _ ▸ hm)).trans ?_
    rw [if_neg Bool.false_ne_true, setPart?, List.contains_eq_mem]
    by_cases hmem : m ∈ names
    · simp [hmem]
    · simp only [hmem, if_false, decide_false, Bool.false_eq_true]
      cases t.explicit <;> rfl

theorem explicitFields_eq (names : List Text) (fields : List (Text × ConfigTree)) :
    explicitFields names fields = (publicFields fields).filterMap fun f =>
      (setPart? names f.1 f.2).map fun v => (.text f.1, v) := by
  induction fields with
  | nil => rfl
  | cons f rest ih =>
    obtain ⟨m, t⟩ := f
    unfold publicFields at ih ⊢
    rw [explicitFields_cons, List.filter_cons, ih]
    cases isPrivate m with
    | true => rfl
    | false =>
      rw [if_neg Bool.false_ne_true, Bool.not_false, if_pos rfl, List.filterMap_cons]
      cases setPart? names m t <;> rfl

theorem lookup?_plainFields {n : Text} (hn : isPrivate n = false)
    (fields : List (Text × ConfigTree)) :
    Value.lookup? (.text n) (plainFields fields) = (input? fields n).map plain := by
  rw [plainFields_eq, ← input?_publicFields hn]
  induction publicFields fields with
  | nil => rfl
  | cons f rest ih =>
    rw [List.map_cons, Value.lookup?_cons_text, input?_cons, ih]
    simp only [Value.text.injEq]
    split <;> rfl

/-- The keys of what was set explicitly are names of public fields, in order. -/
theorem keys_explicitFields (names : List Text) (fields : List (Text × ConfigTree)) :
    ((explicitFields names fields).map Prod.fst).Sublist
      ((publicFields fields).map fun f => .text f.1) := by
  rw [explicitFields_eq]
  induction publicFields fields with
  | nil => exact List.Sublist.refl _
  | cons f rest ih =>
    rw [List.filterMap_cons, List.map_cons]
    cases setPart? names f.1 f.2 with
    | none => exact ih.cons _
    | some v => exact ih.cons_cons _

theorem lookup?_explicitFields {n : Text} (hn : isPrivate n = false) (names : List Text)
    {fields : List (Text × ConfigTree)} (hdistinct : ((publicFields fields).map Prod.fst).Nodup) :
    Value.lookup? (.text n) (explicitFields names fields)
      = (input? fields n).bind (setPart? names n) := by
  rw [explicitFields_eq, ← input?_publicFields hn]
  generalize publicFields fields = fs at hdistinct ⊢
  induction fs with
  | nil => rfl
  | cons f rest ih =>
    obtain ⟨m, t⟩ := f
    rw [List.map_cons, List.nodup_cons] at hdistinct
    have hrest := ih hdistinct.2
    rw [List.filterMap_cons, input?_cons]
    by_cases hm : m = n
    · subst hm
      -- a field that counts for nothing must not be followed by one of its name that does
      have hnone : input? rest m = none := by
        refine Option.map_eq_none_iff.mpr (List.find?_eq_none.mpr fun f hf heq => hdistinct.1 ?_)
        exact List.mem_map.mpr ⟨f, hf, beq_iff_eq.mp heq⟩
      rw [if_pos rfl, Option.bind_some]
      rw [hnone, Option.bind_none] at hrest
      cases setPart? names m t with
      | none => exact hrest
      | some v => exact (Value.lookup?_cons_text _ _ _ _).trans (if_pos rfl)
    · rw [if_neg hm, ← hrest]
      cases setPart? names m t with
      | none => rfl
      | some v =>
        exact (Value.lookup?_cons_text _ _ _ _).trans (if_neg fun heq => hm (Value.text.inj heq))

/-! ## Values that can be read -/

theorem FieldsOf.any_eq_false {α : Type} {name : α → Text} {Fits : α → ConfigTree → Prop}
    {items : List α} {fields : List (Text × ConfigTree)} (h : FieldsOf name Fits items fields)
    {p : Text × ConfigTree → Bool} (hp : ∀ n a t, Fits a t → p (n, t) = false) :
    (publicFields fields).any p = false := by
  unfold FieldsOf at h
  generalize publicFields fields = fs at h
  induction h with
  | nil => rfl
  | cons h _ ih =>
    obtain ⟨t, rfl, ht⟩ := h
    rw [List.any_cons, hp _ _ t ht, ih]
    rfl

theorem isCircular_model (kind : ModelKind) (fields : List (Text × ConfigTree))
    (names : List Text) :
    (model kind fields names).plain.isCircular
      = (publicFields fields).any fun f => f.2.plain.isCircular := by
  rw [plain, Value.isCircular, plainFields_eq]
  induction publicFields fields with
  | nil => rfl
  | cons f rest ih =>
    rw [List.map_cons, Value.anyEntryCircular, ih]
    rfl

theorem blocked_model (kind : ModelKind) (fields : List (Text × ConfigTree)) (names : List Text) :
    (model kind fields names).blocked = (publicFields fields).any fun f =>
      f.2.blocked || names.contains f.1 && f.2.isModel && f.2.plain.isCircular := by
  rw [blocked]
  induction fields with
  | nil => rfl
  | cons f rest ih =>
    obtain ⟨m, t⟩ := f
    unfold publicFields at ih ⊢
    rw [blockedFields, List.filter_cons, ih]
    cases isPrivate m <;> rfl

theorem isCircular_section {s : Section} {t : ConfigTree}
    (h : t.SectionWith Setting.Reads s) :
    t.plain.isCircular = false := by
  obtain ⟨fields, names, rfl, hfields⟩ := h
  rw [isCircular_model]
  refine hfields.any_eq_false ?_
  rintro n x u ⟨v, rfl, hv⟩
  exact Value.isCircular_of_isSingle hv.isSingle

theorem blocked_section {s : Section} {t : ConfigTree}
    (h : t.SectionWith Setting.Reads s) : t.blocked = false := by
  obtain ⟨fields, names, rfl, hfields⟩ := h
  rw [blocked_model]
  refine hfields.any_eq_false ?_
  rintro n x u ⟨v, rfl, -⟩
  simp [blocked, isModel]

theorem Readable.isCircular {t : ConfigTree} (h : t.Readable) : t.plain.isCircular = false := by
  obtain ⟨fields, names, rfl, hfields⟩ := h
  rw [isCircular_model]
  exact hfields.any_eq_false fun n s u hu => isCircular_section hu

theorem Readable.blocked {t : ConfigTree} (h : t.Readable) : t.blocked = false := by
  obtain ⟨fields, names, rfl, hfields⟩ := h
  rw [blocked_model]
  refine hfields.any_eq_false fun n s u hu => ?_
  simp [isCircular_section hu, blocked_section hu]

/-! ## The value of each setting -/

theorem setting_of_get? {t u : ConfigTree} {n : Text} (h : t.get? [n] = some u) :
    t.setting n = u := by
  rw [setting, h, Option.getD_some]

theorem value_of_get? {t : ConfigTree} {s : Section} {x : Setting} {v : Value}
    (h : t.get? [s.name, x.name] = some (leaf v)) : t.value s x = v := by
  rw [get?_cons] at h
  obtain ⟨u, hu, hv⟩ := Option.bind_eq_some_iff.mp h
  rw [value, setting_of_get? hu, setting_of_get? hv, plain]

/-- What is read of a setting. -/
theorem Readable.read {t : ConfigTree} (h : t.Readable) {s : Section} {x : Setting}
    (hx : x ∈ s.settings) : x.kind.read (t.value s x) = .ok (t.coerced s x) := by
  obtain ⟨v, hv, w, hw⟩ := h.setting hx
  rw [coerced, value_of_get? hv, hw]

/-- A setting that holds what it may is read as it is. -/
theorem WellFormed.coerced {t : ConfigTree} (h : t.WellFormed) {s : Section} {x : Setting}
    (hx : x ∈ s.settings) : t.coerced s x = t.value s x := by
  obtain ⟨v, hv, hholds⟩ := h.setting hx
  rw [ConfigTree.coerced, value_of_get? hv, SettingKind.read_of_holds hholds]

/-! ## Merging -/

/-- Merging fields over a mapping, some or all of them, name by name. -/
theorem lookup?_mergeFields {part : List (Value × Value)} {fields : List (Text × ConfigTree)}
    (hkeys : (part.map Prod.fst).Sublist ((publicFields fields).map fun f => .text f.1))
    (hdistinct : ((publicFields fields).map Prod.fst).Nodup) (base : List (Value × Value))
    (n : Text) :
    Value.lookup? (.text n) (Value.mergeEntries base part)
      = match Value.lookup? (.text n) part with
        | none => Value.lookup? (.text n) base
        | some v => some (Value.mergeOver (Value.lookup? (.text n) base) v) := by
  refine Value.lookup?_mergeEntries
    (Value.keysApart_of_nodup (fun e he => ?_) (List.Nodup.sublist hkeys ?_)) base (.text n)
  · obtain ⟨f, -, hf⟩ := List.mem_map.mp (hkeys.subset (List.mem_map_of_mem he))
    exact ⟨f.1, hf.symm⟩
  · have hcomp : (publicFields fields).map (fun f => Value.text f.1)
        = ((publicFields fields).map Prod.fst).map Value.text := by
      rw [List.map_map]
      rfl
    rw [hcomp]
    exact List.Nodup.map (fun _ _ heq => Value.text.inj heq) hdistinct

/-- The part of a section that counts in an override: all of it if it was set as a whole. -/
def countingFields (whole : Bool) (names : List Text) (fields : List (Text × ConfigTree)) :
    List (Value × Value) :=
  if whole then plainFields fields else explicitFields names fields

theorem keys_countingFields (whole : Bool) (names : List Text)
    (fields : List (Text × ConfigTree)) :
    ((countingFields whole names fields).map Prod.fst).Sublist
      ((publicFields fields).map fun f => .text f.1) := by
  cases whole with
  | true =>
    rw [countingFields, if_pos rfl, plainFields_eq, List.map_map]
    exact List.Sublist.refl _
  | false => exact keys_explicitFields names fields

theorem lookup?_countingFields {s : Section} {fields : List (Text × ConfigTree)}
    (hdistinct : ((publicFields fields).map Prod.fst).Nodup) (whole : Bool) (names : List Text)
    {x : Setting} (hx : x ∈ s.settings) {v : Value} (hv : input? fields x.name = some (leaf v)) :
    Value.lookup? (.text x.name) (countingFields whole names fields)
      = if whole || names.contains x.name then some v else none := by
  have hpublic := Section.isPrivate_setting hx
  cases whole with
  | true =>
    rw [countingFields, if_pos rfl, lookup?_plainFields hpublic, hv]
    rfl
  | false =>
    rw [countingFields, if_neg Bool.false_ne_true, lookup?_explicitFields hpublic names hdistinct,
      hv, Option.bind_some, setPart?, explicit]
    simp [plain]

/-- Under the name of a section, the part of it that counts is merged over the old section. -/
theorem lookup?_mergedSection {s : Section} {bfields ofields tfields ufields}
    {tnames unames : List Text}
    (ht : input? bfields s.name = some (model (.part s) tfields tnames))
    (hu : input? ofields s.name = some (model (.part s) ufields unames))
    (hdistinct : ((publicFields ofields).map Prod.fst).Nodup) (onames : List Text) :
    Value.lookup? (.text s.name)
        (Value.mergeEntries (plainFields bfields) (explicitFields onames ofields))
      = some (.dict (Value.mergeEntries (plainFields tfields)
        (countingFields (onames.contains s.name) unames ufields))) := by
  rw [lookup?_mergeFields (keys_explicitFields _ _) hdistinct,
    lookup?_explicitFields s.isPrivate_name _ hdistinct, hu, lookup?_plainFields s.isPrivate_name,
    ht, Option.bind_some, Option.map_some, setPart?, plain, plain, explicit, countingFields]
  cases onames.contains s.name with
  | true => simp [Value.mergeOver]
  | false =>
    -- a section in which nothing was set is left out, which is merging nothing over the old one
    cases explicitFields unames ufields <;> simp [Value.mergeOver, Value.mergeEntries]

/-- Under the name of a setting stands the new value if it counts, and the old one otherwise. -/
theorem lookup?_mergedSetting {s : Section} {tfields ufields : List (Text × ConfigTree)}
    (hdistinct : ((publicFields ufields).map Prod.fst).Nodup) (whole : Bool) (unames : List Text)
    {x : Setting} (hx : x ∈ s.settings) {v w : Value} (hw : x.Reads w)
    (hold : input? tfields x.name = some (leaf v)) (hnew : input? ufields x.name = some (leaf w)) :
    Value.lookup? (.text x.name)
        (Value.mergeEntries (plainFields tfields) (countingFields whole unames ufields))
      = some (if whole || unames.contains x.name then w else v) := by
  rw [lookup?_mergeFields (keys_countingFields _ _ _) hdistinct,
    lookup?_countingFields hdistinct _ _ hx hnew,
    lookup?_plainFields (Section.isPrivate_setting hx), hold]
  cases whole || unames.contains x.name with
  | true => exact congrArg some (Value.mergeOver_of_isSingle hw.isSingle _)
  | false => rfl

/-- The merged mapping has a mapping for every section, and in it the value of the override where
this sets it and the old value elsewhere. -/
theorem lookup?_merged {base o : ConfigTree} (hbase : base.Readable) (ho : o.Readable)
    (s : Section) :
    ∃ d, Value.lookup? (.text s.name) (Value.mergeEntries (entriesOf base.plain) o.explicit)
        = some (.dict d)
      ∧ ∀ x ∈ s.settings, Value.lookup? (.text x.name) d
        = some ((if o.sets s x then o else base).value s x) := by
  obtain ⟨bfields, bnames, rfl, hb⟩ := hbase
  obtain ⟨ofields, onames, rfl, ho⟩ := ho
  obtain ⟨_, ht, tfields, tnames, rfl, htf⟩ :=
    hb.input? Section.nodup_names s.mem_all s.isPrivate_name
  obtain ⟨_, hu, ufields, unames, rfl, huf⟩ :=
    ho.input? Section.nodup_names s.mem_all s.isPrivate_name
  refine ⟨_, lookup?_mergedSection ht hu (ho.nodup Section.nodup_names) onames, fun x hx => ?_⟩
  have hpublic := Section.isPrivate_setting hx
  obtain ⟨_, hold, v, rfl, -⟩ := htf.input? s.nodup_settings hx hpublic
  obtain ⟨_, hnew, w, rfl, hw⟩ := huf.input? s.nodup_settings hx hpublic
  rw [lookup?_mergedSetting (huf.nodup s.nodup_settings) _ _ hx hw hold hnew]
  have hsets : (model .config ofields onames).sets s x
      = (onames.contains s.name || unames.contains x.name) := by
    rw [sets, setting, get?, hu]
    rfl
  have hold : (model .config bfields bnames).value s x = v :=
    value_of_get? (by rw [get?, ht, Option.bind_some, get?, hold]; rfl)
  have hnew : (model .config ofields onames).value s x = w :=
    value_of_get? (by rw [get?, hu, Option.bind_some, get?, hnew]; rfl)
  rw [hsets]
  split
  · rw [hnew]
  · rw [hold]

/-! ## Reading what is merged -/

theorem givenNames_eq_self {inputs : ModelInputs} {names : List Text}
    (h : ∀ n ∈ names, ∃ t, input? inputs n = some t) : givenNames inputs names = names := by
  refine List.filter_eq_self.mpr fun n hn => ?_
  obtain ⟨t, ht⟩ := h n hn
  rw [ht]
  rfl

/-- A section whose settings are all given and can be read. -/
theorem section?_eq_filled {s : Section} {d : List (Value × Value)} {w : Setting → Value}
    (h : ∀ x ∈ s.settings, ∃ v, Value.lookup? (.text x.name) d = some v
      ∧ x.kind.read v = .ok (w x)) :
    ConfigTree.section? s (namedEntries d) = .ok (filledSection s w) := by
  have hgiven : ∀ n ∈ s.settings.map (·.name), ∃ t, input? (namedEntries d) n = some t := by
    intro n hn
    obtain ⟨x, hx, rfl⟩ := List.mem_map.mp hn
    obtain ⟨v, hv, -⟩ := h x hx
    exact ⟨leaf v, by rw [input?_namedEntries, hv]; rfl⟩
  rw [section?, givenNames_eq_self hgiven]
  refine map_eq_ok.mpr ⟨_, readSettings_eq_ok_iff.mpr ?_, rfl⟩
  refine List.forall₂_map_right_iff.mpr (List.forall₂_same.mpr fun x hx => ⟨w x, rfl, ?_⟩)
  obtain ⟨v, hv, hread⟩ := h x hx
  rw [takeSetting, input?_namedEntries, hv]
  exact hread

/-- A configuration whose settings are all given and can be read. -/
theorem ofInputs_eq_filled {es : List (Value × Value)} {w : Section → Setting → Value}
    (h : ∀ s : Section, ∃ d, Value.lookup? (.text s.name) es = some (.dict d)
      ∧ ∀ x ∈ s.settings, ∃ v, Value.lookup? (.text x.name) d = some v
        ∧ x.kind.read v = .ok (w s x)) :
    ofInputs .config (namedEntries es) = .ok (filled w) := by
  have hgiven : ∀ n ∈ Section.all.map (·.name), ∃ t, input? (namedEntries es) n = some t := by
    intro n hn
    obtain ⟨s, -, rfl⟩ := List.mem_map.mp hn
    obtain ⟨d, hd, -⟩ := h s
    exact ⟨leaf (.dict d), by rw [input?_namedEntries, hd]; rfl⟩
  rw [ofInputs, givenNames_eq_self hgiven]
  refine map_eq_ok.mpr ⟨_, readSections_eq_ok_iff.mpr ?_, rfl⟩
  refine List.forall₂_map_right_iff.mpr (List.forall₂_same.mpr fun s _ =>
    ⟨filledSection s (w s), rfl, ?_⟩)
  obtain ⟨d, hd, hsettings⟩ := h s
  rw [takeSection, input?_namedEntries, hd]
  exact mapError_eq_ok.mpr (section?_eq_filled hsettings)

/-- On values that can be read, overriding puts what is set over what was there. -/
theorem overriddenBy_eq {base o : ConfigTree} (hbase : base.Readable) (ho : o.Readable) :
    base.overriddenBy o = .ok (base.overlaid o) := by
  refine ofInputs_eq_filled fun s => ?_
  obtain ⟨d, hd, hsettings⟩ := lookup?_merged hbase ho s
  refine ⟨d, hd, fun x hx => ⟨_, hsettings x hx, ?_⟩⟩
  split
  · exact ho.read hx
  · exact hbase.read hx

/-! ## The configuration that results -/

theorem filled_congr {w w' : Section → Setting → Value}
    (h : ∀ s, ∀ x ∈ s.settings, w s x = w' s x) : filled w = filled w' := by
  have hsection : ∀ s, filledSection s (w s) = filledSection s (w' s) := by
    intro s
    rw [filledSection, filledSection, List.map_congr_left fun x hx => by rw [h s x hx]]
  rw [filled, filled, List.map_congr_left fun s _ => by rw [hsection s]]

end ConfigTree

namespace Scope

/-- Inside a block with an override whose values can be read. -/
theorem overridden_eq {c o : ConfigTree} (hc : c.WellFormed) (ho : o.Readable) :
    overridden c (.tree o) = .ok (c.overlaid o) := by
  have hblocked := ho.blocked
  have hlaid := ConfigTree.overriddenBy_eq hc.readable ho
  obtain ⟨fields, explicit, rfl, -⟩ := ho
  rw [overridden_config, hc.readable.isCircular, hblocked, hlaid]
  rfl

end Scope

namespace ConfigTree

theorem overlaid_formed {c o : ConfigTree} (hc : c.WellFormed) (ho : o.Readable) :
    (c.overlaid o).WellFormed :=
  Scope.overridden_formed hc (Scope.overridden_eq hc ho)

theorem input?_map {α : Type} {name : α → Text} {items : List α} (f : α → ConfigTree)
    (hdistinct : (items.map name).Nodup) (hpublic : ∀ a ∈ items, isPrivate (name a) = false)
    {a : α} (ha : a ∈ items) :
    input? (items.map fun a => (name a, f a)) (name a) = some (f a) := by
  have hfields : FieldsOf name (fun a t => t = f a) items (items.map fun a => (name a, f a)) :=
    FieldsOf.of_forall₂
      (List.forall₂_map_right_iff.mpr (List.forall₂_same.mpr fun a _ => ⟨f a, rfl, rfl⟩)) hpublic
  obtain ⟨t, ht, rfl⟩ := hfields.input? hdistinct ha (hpublic a ha)
  exact ht

theorem get?_filled (w : Section → Setting → Value) {s : Section} {x : Setting}
    (hx : x ∈ s.settings) : (filled w).get? [s.name, x.name] = some (leaf (w s x)) := by
  rw [filled, get?, input?_map _ Section.nodup_names (fun s _ => s.isPrivate_name) s.mem_all,
    Option.bind_some, filledSection, get?,
    input?_map _ s.nodup_settings (fun x hx => Section.isPrivate_setting hx) hx]
  rfl

/-- The value of a setting of a configuration with what another one sets. -/
theorem value_overlaid (c o : ConfigTree) {s : Section} {x : Setting} (hx : x ∈ s.settings) :
    (c.overlaid o).value s x = (if o.sets s x then o else c).coerced s x :=
  value_of_get? (get?_filled _ hx)

end ConfigTree

end Registry
