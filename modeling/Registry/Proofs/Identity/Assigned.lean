import Registry.Proofs.DateTime.Input
import Registry.Proofs.Identity.Fields
import Registry.Proofs.Identity.Statement
import Registry.Proofs.Text.Utf8

/-!
# Fields of identities under assignment

What a field holds is told by the input that it was last set to (`Column.Holds`): a text as it was
given or as its octets spell it, the reading at UTC of the instant that was given, or a mapping with
texts for keys. This is so of an identity that is made of inputs and is kept by every assignment,
taken or refused (`Traced.ofInputs_assignAll`).
-/

namespace Registry

/-! ## Texts and mappings -/

/-- An input is a text, or the octets of one. -/
def Value.Spells (v : Value) (t : Text) : Prop :=
  v = .text t ∨ ∃ b, v = .bytes b ∧ Utf8.decode b = .ok t

theorem Field.text_eq_ok_iff {v : Value} {t : Text} : Field.text v = .ok t ↔ v.Spells t := by
  unfold Field.text Value.Spells
  cases v with
  | text s => simp
  | bytes b => cases hb : Utf8.decode b <;> simp [hb]
  | _ => simp

theorem readTextField_eq_ok_iff {name : Text} {v : Value} {t : Text} :
    readTextField name v = .ok t ↔ v.Spells t := by
  rw [readTextField, mapError_eq_ok, Field.text_eq_ok_iff]

/-- An entry with a text for its key is an entry of a mapping whose key spells the text. -/
def IsNamed (entry : Value × Value) (e : Text × Value) : Prop :=
  entry.1.Spells e.1 ∧ entry.2 = e.2

/-- Every name of a mapping is spelled by a key of the input. -/
theorem exists_entry_of_mem_lastOfEach {entries : List (Value × Value)}
    {named : List (Text × Value)} (h : List.Forall₂ IsNamed entries named) {name : Text}
    (hname : name ∈ (lastOfEach named).map Prod.fst) :
    ∃ entry ∈ entries, entry.1.Spells name := by
  rw [lastOfEach, List.map_map] at hname
  obtain ⟨n, hn, rfl⟩ := List.mem_map.mp hname
  obtain ⟨e, he, rfl⟩ := List.mem_map.mp (List.mem_eraseDups.mp hn)
  obtain ⟨entry, hentry, hspells, -⟩ := exists_mem_of_forall₂ h he
  exact ⟨entry, hentry, hspells⟩

namespace Field

theorem readKeys_ne_ok {entries : List (Value × Value)} {done es : List (Text × Value)}
    {errors : List FieldError} (h : errors ≠ []) : readKeys entries done errors ≠ .ok es := by
  induction entries generalizing done errors with
  | nil =>
    cases errors with
    | nil => exact absurd rfl h
    | cons e errors => nofun
  | cons entry rest ih =>
    obtain ⟨k, v⟩ := entry
    rw [readKeys]
    cases text k with
    | ok name => exact ih h
    | error fault => exact ih (List.cons_ne_nil _ _)

/-- Keys are read exactly if all of them spell texts. -/
theorem readKeys_eq_ok_iff {entries : List (Value × Value)} {done es : List (Text × Value)} :
    readKeys entries done [] = .ok es ↔ ∃ named, List.Forall₂ IsNamed entries named
      ∧ es = named.foldl (fun done e => putNamed done e.1 e.2) done := by
  induction entries generalizing done with
  | nil =>
    simp only [List.forall₂_nil_left_iff, exists_eq_left, List.foldl_nil]
    exact ⟨fun h => (Except.ok.inj h).symm, fun h => h ▸ rfl⟩
  | cons entry rest ih =>
    obtain ⟨k, v⟩ := entry
    simp only [List.forall₂_cons_left_iff, IsNamed, ← text_eq_ok_iff]
    rw [readKeys]
    cases text k with
    | ok name =>
      simp only [ih, Except.ok.injEq]
      constructor
      · rintro ⟨named, hnamed, rfl⟩
        exact ⟨_, ⟨(name, v), named, ⟨rfl, rfl⟩, hnamed, rfl⟩, rfl⟩
      · rintro ⟨_, ⟨⟨_, _⟩, named, ⟨rfl, rfl⟩, hnamed, rfl⟩, rfl⟩
        exact ⟨named, hnamed, rfl⟩
    | error fault =>
      refine iff_of_false (readKeys_ne_ok (List.cons_ne_nil _ _)) ?_
      rintro ⟨_, ⟨e, named, ⟨hname, -⟩, -⟩, -⟩
      cases hname

theorem readKeys_ne_error_nil {entries : List (Value × Value)} {done : List (Text × Value)}
    {errors : List FieldError} : readKeys entries done errors ≠ .error [] := by
  induction entries generalizing done errors with
  | nil => cases errors with
    | nil => nofun
    | cons e errors =>
      rw [readKeys]
      · simp
      · nofun
  | cons entry rest ih =>
    obtain ⟨k, v⟩ := entry
    rw [readKeys]
    cases text k with
    | ok name => exact ih
    | error fault => exact ih

theorem mapping_ne_error_nil {v : Value} : mapping v ≠ .error [] := by
  cases v with
  | dict entries => exact readKeys_ne_error_nil
  | _ => nofun

theorem mapping_eq_ok_iff {v : Value} {es : List (Text × Value)} :
    mapping v = .ok es ↔ ∃ entries named, v = .dict entries
      ∧ List.Forall₂ IsNamed entries named ∧ es = lastOfEach named := by
  cases v with
  | dict entries => simp [mapping, readKeys_eq_ok_iff, foldl_putNamed]
  | _ => simp [mapping]

end Field

theorem readMetadataField_eq_ok_iff {name : Text} {v : Value} {m : Option Inputs} :
    readMetadataField name v = .ok m ↔ v = .null ∧ m = none
      ∨ ∃ entries named, v = .dict entries ∧ List.Forall₂ IsNamed entries named
        ∧ m = some (lastOfEach named) := by
  unfold readMetadataField
  split
  · simp [eq_comm]
  · next hnull =>
    rw [or_iff_right fun h => hnull h.1, map_eq_ok]
    simp only [mapError_eq_ok, Field.mapping_eq_ok_iff]
    constructor
    · rintro ⟨_, ⟨entries, named, rfl, hnamed, rfl⟩, rfl⟩
      exact ⟨entries, named, rfl, hnamed, rfl⟩
    · rintro ⟨entries, named, rfl, hnamed, rfl⟩
      exact ⟨_, ⟨entries, named, rfl, hnamed, rfl⟩, rfl⟩

/-! ## Refused inputs -/

theorem readTextField_ne_error_nil {name : Text} {v : Value} :
    readTextField name v ≠ .error (.invalid []) := by
  unfold readTextField
  cases Field.text v <;> nofun

theorem readDateField_ne_error_nil {name : Text} {v : Value} :
    readDateField name v ≠ .error (.invalid []) := by
  unfold readDateField
  split
  · nofun
  · cases Field.dateTime v with
    | error fault => nofun
    | ok d => cases hd : d.toUtc? <;> simp [hd]

theorem readMetadataField_ne_error_nil {name : Text} {v : Value} :
    readMetadataField name v ≠ .error (.invalid []) := by
  unfold readMetadataField
  split
  · nofun
  · rw [ne_eq, map_eq_error]
    cases h : Field.mapping v with
    | ok es => nofun
    | error errors =>
      simp only [mapError_error, InputFailure.ofErrors, Except.error.injEq,
        InputFailure.invalid.injEq, List.map_eq_nil_iff]
      rintro rfl
      exact Field.mapping_ne_error_nil h

/-! ## What a field holds -/

namespace Column

def IsTextual (c : Column) : Prop := c = .identityId ∨ ∃ a, c = .detail a

/-- A text that was set to an input is what the input spells. -/
def HoldsText (v w : Value) : Prop := ∃ t, v.Spells t ∧ w = .text t

/-- A date that was set to an input is nothing, as the input, or the reading at UTC of its instant.
-/
def HoldsDate (v w : Value) : Prop :=
  v = .null ∧ w = .null
    ∨ ∃ u : UtcTime, v.instant? = some (u.instant : Int) ∧ w = .dateTime u.toDateTime

/-- Metadata that were set to an input are nothing, as the input, or its mapping under the texts
that the keys spell. -/
def HoldsMapping (v w : Value) : Prop :=
  v = .null ∧ w = .null
    ∨ ∃ entries named, v = .dict entries ∧ List.Forall₂ IsNamed entries named
      ∧ w = .dict (namedEntries (lastOfEach named))

/-- A field that was set to an input holds a value. -/
def Holds : Column → Value → Value → Prop
  | .identityId => HoldsText
  | .detail _ => HoldsText
  | .dob => HoldsDate
  | .createdAt => HoldsDate
  | .metadata => HoldsMapping

variable {c : Column}

theorem holds_of_isTextual (h : c.IsTextual) : c.Holds = HoldsText := by
  rcases h with rfl | ⟨a, rfl⟩ <;> rfl

theorem blank_of_isTextual (h : c.IsTextual) : Identity.blank.get c = .text [] := by
  rcases h with rfl | ⟨a, rfl⟩ <;> rfl

theorem eq_of_dateTime (h : c.type = .dateTime) : c = .dob ∨ c = .createdAt := by
  cases c with
  | dob => exact .inl rfl
  | createdAt => exact .inr rfl
  | _ => cases h

theorem holds_of_dateTime (h : c.type = .dateTime) : c.Holds = HoldsDate := by
  rcases eq_of_dateTime h with rfl | rfl <;> rfl

theorem blank_of_dateTime (h : c.type = .dateTime) : Identity.blank.get c = .null := by
  rcases eq_of_dateTime h with rfl | rfl <;> rfl

end Column

theorem holdsText_of_read {name : Text} {v : Value} {t : Text} (h : readTextField name v = .ok t) :
    Column.HoldsText v (.text t) :=
  ⟨t, readTextField_eq_ok_iff.mp h, rfl⟩

theorem holdsDate_of_read {name : Text} {v : Value} {d : Option UtcTime}
    (h : readDateField name v = .ok d) : Column.HoldsDate v (utcValue d) := by
  rcases readDateField_eq_ok_iff.mp h with ⟨rfl, rfl⟩ | ⟨u, rfl, hu⟩
  · exact .inl ⟨rfl, rfl⟩
  · exact .inr ⟨u, hu, rfl⟩

theorem holdsMapping_of_read {name : Text} {v : Value} {m : Option Inputs}
    (h : readMetadataField name v = .ok m) : Column.HoldsMapping v (metadataValue m) := by
  rcases readMetadataField_eq_ok_iff.mp h with ⟨rfl, rfl⟩ | ⟨entries, named, rfl, hnamed, rfl⟩
  · exact .inl ⟨rfl, rfl⟩
  · exact .inr ⟨entries, named, rfl, hnamed, rfl⟩

theorem exists_readTextField_iff {name : Text} {v : Value} :
    (∃ t, readTextField name v = .ok t) ↔ ∃ w, Column.HoldsText v w := by
  constructor
  · rintro ⟨t, ht⟩
    exact ⟨_, holdsText_of_read ht⟩
  · rintro ⟨_, t, ht, rfl⟩
    exact ⟨t, readTextField_eq_ok_iff.mpr ht⟩

theorem exists_readDateField_iff {name : Text} {v : Value} :
    (∃ d, readDateField name v = .ok d) ↔ ∃ w, Column.HoldsDate v w := by
  constructor
  · rintro ⟨d, hd⟩
    exact ⟨_, holdsDate_of_read hd⟩
  · rintro ⟨_, ⟨rfl, rfl⟩ | ⟨u, hu, rfl⟩⟩
    · exact ⟨none, rfl⟩
    · exact ⟨some u, readDateField_eq_ok_iff.mpr (.inr ⟨u, rfl, hu⟩)⟩

theorem exists_readMetadataField_iff {name : Text} {v : Value} :
    (∃ m, readMetadataField name v = .ok m) ↔ ∃ w, Column.HoldsMapping v w := by
  constructor
  · rintro ⟨m, hm⟩
    exact ⟨_, holdsMapping_of_read hm⟩
  · rintro ⟨_, ⟨rfl, rfl⟩ | ⟨entries, named, rfl, hnamed, rfl⟩⟩
    · exact ⟨none, rfl⟩
    · exact ⟨_, readMetadataField_eq_ok_iff.mpr (.inr ⟨entries, named, rfl, hnamed, rfl⟩)⟩

namespace Identity

variable {i i' : Identity} {c : Column} {v : Value}

/-- A field that takes an input holds what the input stands for, and other fields are kept. -/
theorem set_holds (h : i.set c v = .ok i') :
    c.Holds v (i'.get c) ∧ ∀ d, d ≠ c → i'.get d = i.get d := by
  cases c with
  | identityId =>
    obtain ⟨t, ht, rfl⟩ := map_eq_ok.mp h
    refine ⟨holdsText_of_read ht, fun d hd => ?_⟩
    cases d with
    | identityId => exact absurd rfl hd
    | _ => rfl
  | detail a =>
    obtain ⟨t, ht, rfl⟩ := map_eq_ok.mp h
    have hget (b : Detail) : (i.withDetail a t).get (.detail b)
        = .text (if b = a then t else i.detail b) := rfl
    refine ⟨?_, fun d hd => ?_⟩
    · rw [hget, if_pos rfl]
      exact holdsText_of_read ht
    · cases d with
      | detail b =>
        rw [hget, if_neg fun hb => hd (congrArg Column.detail hb)]
        rfl
      | _ => rfl
  | dob =>
    obtain ⟨u, hu, rfl⟩ := map_eq_ok.mp h
    refine ⟨holdsDate_of_read hu, fun d hd => ?_⟩
    cases d with
    | dob => exact absurd rfl hd
    | _ => rfl
  | createdAt =>
    obtain ⟨u, hu, rfl⟩ := map_eq_ok.mp h
    refine ⟨holdsDate_of_read hu, fun d hd => ?_⟩
    cases d with
    | createdAt => exact absurd rfl hd
    | _ => rfl
  | metadata =>
    obtain ⟨m, hm, rfl⟩ := map_eq_ok.mp h
    refine ⟨holdsMapping_of_read hm, fun d hd => ?_⟩
    cases d with
    | metadata => exact absurd rfl hd
    | _ => rfl

theorem exists_set_iff : (∃ i', i.set c v = .ok i') ↔ ∃ w, c.Holds v w := by
  cases c with
  | identityId => exact exists_map_eq_ok_iff.trans exists_readTextField_iff
  | detail a => exact exists_map_eq_ok_iff.trans exists_readTextField_iff
  | dob => exact exists_map_eq_ok_iff.trans exists_readDateField_iff
  | createdAt => exact exists_map_eq_ok_iff.trans exists_readDateField_iff
  | metadata => exact exists_map_eq_ok_iff.trans exists_readMetadataField_iff

/-- A field that refuses an input says why. -/
theorem set_ne_error_nil : i.set c v ≠ .error (.invalid []) := by
  cases c with
  | identityId => exact fun h => readTextField_ne_error_nil (map_eq_error.mp h)
  | detail a => exact fun h => readTextField_ne_error_nil (map_eq_error.mp h)
  | dob => exact fun h => readDateField_ne_error_nil (map_eq_error.mp h)
  | createdAt => exact fun h => readDateField_ne_error_nil (map_eq_error.mp h)
  | metadata => exact fun h => readMetadataField_ne_error_nil (map_eq_error.mp h)

/-- The two ways in which an assignment is taken: a field takes the input, or the name is private
and nothing is set. -/
theorem assign_eq_ok_iff {name : Text} : i.assign name v = .ok i' ↔
    (∃ c, name = Text.ofString (Column.name c) ∧ i.set c v = .ok i')
      ∨ ¬Column.IsName name ∧ name.head?.any (CodePoint.is · '_') = true ∧ i = i' := by
  unfold assign
  simp only [← Column.ofName?_eq_some_iff, ← Column.ofName?_eq_none_iff]
  cases Column.ofName? name with
  | some c => simp
  | none =>
    simp only
    split
    · next hprivate => simp [hprivate]
    · next hpublic => split <;> simp [hpublic]

end Identity

/-! ## Assignments -/

/-- An identity, with the input that each field was last set to, if it was set at all. -/
structure Traced where
  identity : Identity
  given : Column → Option Value

namespace Traced

def ofInputs (inputs : Inputs) : Except InputFailure Traced :=
  (Identity.ofInputs inputs).map fun i => ⟨i, fun c => inputs.get? (Text.ofString c.name)⟩

/-- Assigns an input to the field of a name. If it is refused, nothing changes. -/
def assign (s : Traced) (name : Text) (v : Value) : Traced :=
  match s.identity.assign name v with
  | .ok i => ⟨i, fun c => if Column.ofName? name = some c then some v else s.given c⟩
  | .error _ => s

/-- Assigns inputs one after the other. -/
def assignAll (s : Traced) (assignments : List (Text × Value)) : Traced :=
  assignments.foldl (fun s a => s.assign a.1 a.2) s

/-- Fields hold what they were set to, and those that were not set are empty. -/
def Sound (s : Traced) : Prop :=
  ∀ c, match s.given c with
    | none => s.identity.get c = Identity.blank.get c
    | some v => c.Holds v (s.identity.get c)

variable {s : Traced}

theorem Sound.set (h : s.Sound) {c : Column} {v : Value} {i : Identity}
    (hset : s.identity.set c v = .ok i) :
    Sound ⟨i, fun d => if d = c then some v else s.given d⟩ := by
  obtain ⟨hc, hother⟩ := Identity.set_holds hset
  intro d
  by_cases hd : d = c
  · subst hd
    simp only [if_true]
    exact hc
  · simp only [if_neg hd, hother d hd]
    exact h d

/-- An input that is taken leaves an identity sound, and so does one that is refused. -/
theorem Sound.assign (h : s.Sound) (name : Text) (v : Value) : (s.assign name v).Sound := by
  unfold Traced.assign
  cases hassign : s.identity.assign name v with
  | error e => exact h
  | ok i =>
    rcases Identity.assign_eq_ok_iff.mp hassign with ⟨c, hname, hset⟩ | ⟨hnone, -, rfl⟩
    · rw [Column.ofName?_eq_some_iff.mpr hname]
      simp only [Option.some.injEq, eq_comm (a := c)]
      exact h.set hset
    · rw [Column.ofName?_eq_none_iff.mpr hnone]
      simp only [reduceCtorEq, if_false]
      exact h

theorem Sound.assignAll (h : s.Sound) (assignments : List (Text × Value)) :
    (s.assignAll assignments).Sound := by
  induction assignments generalizing s with
  | nil => exact h
  | cons a rest ih => exact ih (h.assign a.1 a.2)

/-- Filling sets fields to their inputs and leaves the others as they are. -/
theorem Sound.fill {inputs : Inputs} {fields : List Column} {i : Identity} (h : s.Sound)
    (hfill : fields.foldlM (fun record c => Inputs.fillField (fun c i v => Identity.set i c v)
      (fun c => Text.ofString c.name) inputs c record) s.identity = .ok i) :
    Sound ⟨i, fun d =>
      if d ∈ fields then (inputs.get? (Text.ofString d.name)).or (s.given d) else s.given d⟩ := by
  induction fields generalizing s with
  | nil =>
    cases hfill
    simpa using h
  | cons c rest ih =>
    rw [List.foldlM_cons] at hfill
    obtain ⟨record, hc, hrest⟩ := bind_eq_ok.mp hfill
    have hstep : Sound ⟨record, fun d =>
        if d = c then (inputs.get? (Text.ofString c.name)).or (s.given d) else s.given d⟩ := by
      unfold Inputs.fillField at hc
      split at hc
      · next hnone =>
        cases hc
        simpa only [hnone, Option.none_or, ite_self] using h
      · next v hv =>
        simpa only [hv, Option.some_or] using h.set hc
    have hall := ih hstep hrest
    have hgiven (d : Column) : (if d ∈ rest then
        (inputs.get? (Text.ofString d.name)).or (if d = c then
          (inputs.get? (Text.ofString c.name)).or (s.given d) else s.given d)
        else if d = c then (inputs.get? (Text.ofString c.name)).or (s.given d) else s.given d)
        = if d ∈ c :: rest then (inputs.get? (Text.ofString d.name)).or (s.given d)
          else s.given d := by
      by_cases hd : d = c
      · subst hd
        simp [← Option.or_assoc]
      · simp [hd]
    simpa only [hgiven] using hall

theorem blank_sound : Sound ⟨Identity.blank, fun _ => none⟩ := fun _ => rfl

theorem ofInputs_sound {inputs : Inputs} (h : ofInputs inputs = .ok s) : s.Sound := by
  obtain ⟨i, hi, rfl⟩ := map_eq_ok.mp h
  unfold Identity.ofInputs at hi
  rw [Inputs.fill_eq_ok_iff_foldlM fun c i v => Identity.set_ne_error_nil] at hi
  have hfilled := blank_sound.fill hi.2
  simpa only [Column.mem_all, if_true, Option.or_none] using hfilled

/-- An assignment that is taken: of an input that the field of the name takes, or to a private name,
which sets nothing. -/
def Takes (name : Text) (v : Value) : Prop :=
  (∃ c w, name = Text.ofString (Column.name c) ∧ c.Holds v w)
    ∨ ¬Column.IsName name ∧ name.head?.any (CodePoint.is · '_') = true

theorem exists_assign_iff {i : Identity} {name : Text} {v : Value} :
    (∃ i', i.assign name v = .ok i') ↔ Takes name v := by
  simp only [Identity.assign_eq_ok_iff, Takes, exists_or, exists_and_left,
    exists_comm (α := Identity), exists_eq', and_true, Identity.exists_set_iff]

theorem assign_of_not_takes {name : Text} {v : Value} (h : ¬Takes name v) :
    s.assign name v = s := by
  unfold Traced.assign
  cases hassign : s.identity.assign name v with
  | error e => rfl
  | ok i => exact absurd (exists_assign_iff.mp ⟨i, hassign⟩) h

/-- An assignment sets no field but that of its name. -/
theorem get_assign_of_ne {name : Text} {v : Value} {c : Column}
    (h : name ≠ Text.ofString c.name) : (s.assign name v).identity.get c = s.identity.get c := by
  unfold Traced.assign
  cases hassign : s.identity.assign name v with
  | error e => rfl
  | ok i =>
    rcases Identity.assign_eq_ok_iff.mp hassign with ⟨d, hname, hset⟩ | ⟨-, -, rfl⟩
    · refine (Identity.set_holds hset).2 c ?_
      rintro rfl
      exact h hname
    · rfl

/-- What holds of an identity, together with the inputs that its fields were last set to: texts are
as they were given or spelled by octets, dates are nothing or at UTC and at the instant that was
given, and metadata are nothing or a mapping under distinct texts. -/
structure WellFormed (s : Traced) : Prop where
  texts : ∀ c, c.IsTextual → ∃ t, s.identity.get c = .text t
    ∧ (s.given c = none ∧ t = [] ∨ s.given c = some (.text t)
      ∨ ∃ b, s.given c = some (.bytes b) ∧ Utf8.decode b = .ok t ∧ t.NoSurrogates)
  dates : ∀ c, c.type = .dateTime →
    s.identity.get c = .null ∧ (s.given c = none ∨ s.given c = some .null)
    ∨ ∃ d v, s.identity.get c = .dateTime d ∧ d.offset = some 0
      ∧ s.given c = some v ∧ v.instant? = some d.instant
  metadata :
    s.identity.get .metadata = .null ∧ (s.given .metadata = none ∨ s.given .metadata = some .null)
    ∨ ∃ es entries, s.identity.get .metadata = .dict (namedEntries es) ∧ (es.map Prod.fst).Nodup
      ∧ s.given .metadata = some (.dict entries) ∧ ∀ name ∈ es.map Prod.fst,
        (∃ v, (.text name, v) ∈ entries)
        ∨ (∃ b v, (.bytes b, v) ∈ entries ∧ Utf8.decode b = .ok name) ∧ name.NoSurrogates

theorem Sound.wellFormed (h : s.Sound) : s.WellFormed := by
  refine ⟨fun c hc => ?_, fun c hc => ?_, ?_⟩
  · have hget := h c
    rw [Column.holds_of_isTextual hc, Column.blank_of_isTextual hc] at hget
    split at hget
    · next hnone => exact ⟨[], hget, .inl ⟨hnone, rfl⟩⟩
    · next v hv =>
      obtain ⟨t, rfl | ⟨b, rfl, hb⟩, ht⟩ := hget
      · exact ⟨t, ht, .inr (.inl hv)⟩
      · exact ⟨t, ht, .inr (.inr ⟨b, hv, hb, Utf8.decodeStrict_noSurrogates hb⟩)⟩
  · have hget := h c
    rw [Column.holds_of_dateTime hc, Column.blank_of_dateTime hc] at hget
    split at hget
    · next hnone => exact .inl ⟨hget, .inl hnone⟩
    · next v hv =>
      rcases hget with ⟨rfl, hnull⟩ | ⟨u, hu, hdate⟩
      · exact .inl ⟨hnull, .inr hv⟩
      · exact .inr ⟨u.toDateTime, v, hdate, rfl, hv, by rw [hu, u.instant_toDateTime]⟩
  · have hget := h .metadata
    split at hget
    · next hnone => exact .inl ⟨hget, .inl hnone⟩
    · next v hv =>
      rcases hget with ⟨rfl, hnull⟩ | ⟨entries, named, rfl, hnamed, hmapping⟩
      · exact .inl ⟨hnull, .inr hv⟩
      · refine .inr ⟨_, entries, hmapping, nodup_names_lastOfEach named, hv, fun name hname => ?_⟩
        obtain ⟨⟨k, v⟩, hentry, hspells⟩ := exists_entry_of_mem_lastOfEach hnamed hname
        rcases hspells with rfl | ⟨b, rfl, hb⟩
        · exact .inl ⟨v, hentry⟩
        · exact .inr ⟨⟨b, v, hentry, hb⟩, Utf8.decodeStrict_noSurrogates hb⟩

end Traced

end Registry
