import Registry.Identity.Patch
import Registry.Proofs.DateTime.Instant
import Registry.Proofs.Json.Canonical
import Registry.Proofs.Outcome

/-!
# Fields of identities and patches

Filling a record from named inputs sets its fields one after the other; if every field takes its
input, the record is the one with all fields set (`Inputs.fill_eq`). From this an identity is found
again in the values of its fields (`Identity.ofInputs_get`), and the patch of an identity is worked
out (`Patch.ofIdentity_eq`).
-/

namespace Registry

/-! ## Named inputs -/

theorem Column.name_injective {c d : Column} (h : Text.ofString c.name = Text.ofString d.name) :
    c = d := by
  have hall : ∀ c ∈ Column.all, ∀ d ∈ Column.all,
      Text.ofString c.name = Text.ofString d.name → c = d := by decide +kernel
  exact hall c (Column.mem_all c) d (Column.mem_all d) h

namespace Inputs

/-- The inputs that give columns their values by name. -/
def ofColumns (cs : List Column) (value : Column → Value) : Inputs :=
  cs.map fun c => (Text.ofString c.name, value c)

theorem get?_ofColumns (cs : List Column) (value : Column → Value) (c : Column) :
    (ofColumns cs value).get? (Text.ofString c.name) = if c ∈ cs then some (value c) else none := by
  induction cs with
  | nil => rfl
  | cons d cs ih =>
    unfold get? ofColumns at ih ⊢
    rw [List.map_cons, List.find?_cons]
    by_cases h : d = c
    · subst h
      simp
    · have hne : (Text.ofString d.name == Text.ofString c.name) = false :=
        beq_eq_false_iff_ne.mpr fun he => h (Column.name_injective he)
      simp only [hne, ih, List.mem_cons, Ne.symm h, false_or]

/-- What filling does with one field: a field without input keeps what it has. -/
def fillField {α β : Type} (set : α → β → Value → Except InputFailure β) (name : α → Text)
    (inputs : Inputs) (field : α) (record : β) : Except InputFailure β :=
  match inputs.get? (name field) with
  | none => .ok record
  | some v => set field record v

/-- If every field takes its input, filling sets the fields one after the other. -/
theorem fill_eq {α β : Type} {set : α → β → Value → Except InputFailure β} {name : α → Text}
    {inputs : Inputs} (copy : β → α → β) (fields : List α) (record : β)
    (h : ∀ field ∈ fields, ∀ record, fillField set name inputs field record = .ok (copy record field)) :
    fill set name inputs fields record [] = .ok (fields.foldl copy record) := by
  induction fields generalizing record with
  | nil => rfl
  | cons field rest ih =>
    have hfield := h field (by simp) record
    have ih := ih (copy record field) fun f hf => h f (List.mem_cons_of_mem field hf)
    unfold fillField at hfield
    rw [fill, List.foldl_cons]
    cases hv : inputs.get? (name field) with
    | none =>
      rw [hv] at hfield
      have he : copy record field = record := (Except.ok.inj hfield).symm
      rw [he] at ih ⊢
      exact ih
    | some v =>
      rw [hv] at hfield
      simp only at hfield ⊢
      rw [hfield]
      exact ih

/-- Filling succeeds exactly if the fields take their inputs one after the other. -/
theorem fill_eq_ok_iff_foldlM {α β : Type} {set : α → β → Value → Except InputFailure β}
    {name : α → Text} {inputs : Inputs}
    (hset : ∀ field record v, set field record v ≠ .error (.invalid [])) {fields : List α}
    {record result : β} {errors : List FieldError} :
    fill set name inputs fields record errors = .ok result
      ↔ errors = [] ∧ fields.foldlM (fun record field => fillField set name inputs field record)
        record = .ok result := by
  induction fields generalizing record errors with
  | nil =>
    cases errors with
    | nil => exact (and_iff_right rfl).symm
    | cons e errors => exact iff_of_false nofun nofun
  | cons field rest ih =>
    rw [List.foldlM_cons, bind_eq_ok, fill, fillField]
    cases inputs.get? (name field) with
    | none => simp only [ih, Except.ok.injEq, exists_eq_left']
    | some v =>
      simp only
      cases hv : set field record v with
      | ok record' => simp only [ih, Except.ok.injEq, exists_eq_left']
      | error f =>
        simp only [reduceCtorEq, false_and, exists_false, and_false, iff_false]
        cases f with
        | invalid more =>
          have hmore : more ≠ [] := by
            rintro rfl
            exact hset field record v hv
          simp [ih, hmore]
        | _ => nofun

/-- What every field keeps that takes its input, filling keeps. -/
theorem fill_keeps {α β : Type} {set : α → β → Value → Except InputFailure β} {name : α → Text}
    {inputs : Inputs} {P : β → Prop} {fields : List α}
    (h : ∀ field ∈ fields, ∀ record record' v, P record → set field record v = .ok record' →
      P record')
    {record result : β} {errors : List FieldError} (hrecord : P record)
    (hfill : fill set name inputs fields record errors = .ok result) : P result := by
  induction fields generalizing record errors with
  | nil =>
    cases errors with
    | nil =>
      cases hfill
      exact hrecord
    | cons e errors => cases hfill
  | cons field rest ih =>
    have hrest : ∀ f ∈ rest, ∀ record record' v, P record → set f record v = .ok record' →
        P record' := fun f hf => h f (List.mem_cons_of_mem field hf)
    unfold fill at hfill
    split at hfill
    · exact ih hrest hrecord hfill
    · split at hfill
      · next hset => exact ih hrest (h field List.mem_cons_self _ _ _ hrecord hset) hfill
      · exact ih hrest hrecord hfill
      · cases hfill

end Inputs

/-! ## Reading single fields -/

theorem readDateField_dateTime (name : Text) {d : DateTime} {u : UtcTime} (h : d.toUtc? = some u) :
    readDateField name (.dateTime d) = .ok (some u) := by
  unfold readDateField
  simp only [Field.dateTime, h]

theorem readDateField_utcValue (name : Text) (d : Option UtcTime) :
    readDateField name (utcValue d) = .ok d := by
  cases d with
  | none => rfl
  | some u => exact readDateField_dateTime name u.toUtc?_toDateTime

theorem readKeys_named (es done : List (Text × Value)) :
    Field.readKeys (namedEntries es) done []
      = .ok (es.foldl (fun done e => Field.putNamed done e.1 e.2) done) := by
  induction es generalizing done with
  | nil => rfl
  | cons e es ih => exact ih (Field.putNamed done e.1 e.2)

theorem readMetadataField_metadataValue (name : Text) (m : Option Inputs) :
    readMetadataField name (metadataValue m) = .ok (m.map lastOfEach) := by
  cases m with
  | none => rfl
  | some es =>
    have h := readKeys_named es []
    rw [foldl_putNamed] at h
    show ((Field.readKeys (namedEntries es) [] []).mapError (InputFailure.ofErrors name)).map some = _
    rw [h]
    rfl

theorem map_lastOfEach_eq_self {m : Option Inputs} (h : ∀ es ∈ m, (es.map Prod.fst).Nodup) :
    m.map lastOfEach = m := by
  cases m with
  | none => rfl
  | some es =>
    rw [Option.map_some, lastOfEach_eq_self (h es rfl)]

/-! ## Identities -/

namespace Identity

/-- The record with one field of an identity. -/
def copy (i record : Identity) : Column → Identity
  | .identityId => { record with id := i.id }
  | .detail a => record.withDetail a (i.detail a)
  | .dob => { record with dob := i.dob }
  | .createdAt => { record with createdAt := i.createdAt }
  | .metadata => { record with metadata := i.metadata }

/-- Copying all fields gives the identity. -/
theorem foldl_copy (i record : Identity) : Column.all.foldl (copy i) record = i := by
  have hdetail : (Column.all.foldl (copy i) record).detail = i.detail := by
    funext a
    cases a <;> rfl
  obtain ⟨id, detail, dob, createdAt, metadata⟩ := i
  exact congrArg (fun f => Identity.mk id f dob createdAt metadata) hdetail

/-- An identity is made of inputs that are read as its fields. -/
theorem ofInputs_eq {i : Identity} (value : Column → Value) (hid : value .identityId = .text i.id)
    (hdetail : ∀ a, value (.detail a) = .text (i.detail a))
    (hdob : ∀ name, readDateField name (value .dob) = .ok i.dob)
    (hcreated : ∀ name, readDateField name (value .createdAt) = .ok i.createdAt)
    (hmeta : ∀ name, readMetadataField name (value .metadata) = .ok i.metadata) :
    ofInputs (Inputs.ofColumns Column.all value) = .ok i := by
  unfold ofInputs
  rw [Inputs.fill_eq (fun record c => copy i record c), foldl_copy]
  intro c hc record
  rw [Inputs.fillField, Inputs.get?_ofColumns, if_pos hc]
  show set record c (value c) = .ok (copy i record c)
  cases c with
  | identityId =>
    rw [hid]
    rfl
  | detail a =>
    rw [hdetail a]
    rfl
  | dob => simp only [set, hdob, Except.map, copy]
  | createdAt => simp only [set, hcreated, Except.map, copy]
  | metadata => simp only [set, hmeta, Except.map, copy]

theorem set_id {i i' : Identity} {c : Column} {v : Value} (hc : c ≠ .identityId)
    (h : set i c v = .ok i') : i'.id = i.id := by
  cases c with
  | identityId => exact absurd rfl hc
  | detail a =>
    obtain ⟨t, -, rfl⟩ := map_eq_ok.mp h
    rfl
  | dob =>
    obtain ⟨d, -, rfl⟩ := map_eq_ok.mp h
    rfl
  | createdAt =>
    obtain ⟨d, -, rfl⟩ := map_eq_ok.mp h
    rfl
  | metadata =>
    obtain ⟨m, -, rfl⟩ := map_eq_ok.mp h
    rfl

/-- An identity has the id of its inputs. -/
theorem ofInputs_id {i : Identity} {id : Text} (value : Column → Value)
    (hid : value .identityId = .text id)
    (h : ofInputs (Inputs.ofColumns Column.all value) = .ok i) : i.id = id := by
  -- the id is the first field, and no other field sets it
  have hset : set blank .identityId (value .identityId) = .ok { blank with id := id } := by
    rw [hid]
    rfl
  have hne : ∀ c ∈ Column.all.tail, c ≠ .identityId := by decide
  unfold ofInputs at h
  rw [show Column.all = .identityId :: Column.all.tail from rfl, Inputs.fill,
    Inputs.get?_ofColumns, if_pos List.mem_cons_self] at h
  simp only [hset] at h
  exact Inputs.fill_keeps (P := fun record => record.id = id)
    (fun c hc record record' v hrecord hs => (set_id (hne c hc) hs).trans hrecord) rfl h

end Identity

/-! ## Patches of identities -/

namespace Patch

/-- The patch that an identity is as an update: its texts that are not empty, its date of birth and
its metadata, if it has them. -/
def ofFields (i : Identity) : Patch where
  id := i.id
  detail a := if i.detail a = [] then none else some (i.detail a)
  dob := i.dob
  metadata := i.metadata.map lastOfEach

/-- The patch with one field of another that has it. -/
def copy (p record : Patch) : Column → Patch
  | .identityId => { record with id := p.id }
  | .detail a =>
    match p.detail a with
    | none => record
    | some t => record.withDetail a (some t)
  | .dob =>
    match p.dob with
    | none => record
    | some u => { record with dob := some u }
  | .createdAt => record
  | .metadata => { record with metadata := p.metadata }

theorem copy_id (p record : Patch) (c : Column) :
    (copy p record c).id = if c = .identityId then p.id else record.id := by
  cases c with
  | detail a => simp only [copy]; split <;> rfl
  | dob => simp only [copy]; split <;> rfl
  | _ => rfl

theorem copy_detail (p record : Patch) (c : Column) (a : Detail) :
    (copy p record c).detail a
      = if c = .detail a then (p.detail a).or (record.detail a) else record.detail a := by
  cases c with
  | detail b =>
    simp only [copy, Column.detail.injEq]
    by_cases h : b = a
    · subst h
      rw [if_pos rfl]
      cases p.detail b with
      | none => rfl
      | some t => exact if_pos rfl
    · rw [if_neg h]
      cases p.detail b with
      | none => rfl
      | some t => exact if_neg (Ne.symm h)
  | dob => simp only [copy]; split <;> rfl
  | _ => rfl

theorem copy_dob (p record : Patch) (c : Column) :
    (copy p record c).dob = if c = .dob then p.dob.or record.dob else record.dob := by
  cases c with
  | detail a => simp only [copy]; split <;> rfl
  | dob => simp only [copy]; cases p.dob <;> rfl
  | _ => rfl

theorem copy_metadata (p record : Patch) (c : Column) :
    (copy p record c).metadata = if c = .metadata then p.metadata else record.metadata := by
  cases c with
  | detail a => simp only [copy]; split <;> rfl
  | dob => simp only [copy]; split <;> rfl
  | _ => rfl

theorem ext {p q : Patch} (hid : p.id = q.id) (hdetail : ∀ a, p.detail a = q.detail a)
    (hdob : p.dob = q.dob) (hmeta : p.metadata = q.metadata) : p = q := by
  cases p
  cases q
  simp only at hid hdetail hdob hmeta
  rw [hid, funext hdetail, hdob, hmeta]

/-- A field that copying changes at one column only is changed once by copying all columns. -/
theorem foldl_copy_field {γ : Type} {p : Patch} (field : Patch → γ) {c : Column} {g : γ → γ}
    (hg : ∀ x, g (g x) = g x)
    (h : ∀ record d, field (copy p record d) = if d = c then g (field record) else field record)
    (cs : List Column) (record : Patch) :
    field (cs.foldl (copy p) record) = if c ∈ cs then g (field record) else field record := by
  induction cs generalizing record with
  | nil => rfl
  | cons d cs ih =>
    rw [List.foldl_cons, ih, h]
    by_cases hd : d = c
    · subst hd
      simp [hg]
    · simp [hd, Ne.symm hd]

theorem foldl_copy (p : Patch) : columns.foldl (copy p) blank = p := by
  have hor {α : Type} (o x : Option α) : o.or (o.or x) = o.or x := by cases o <;> rfl
  refine ext ?_ (fun a => ?_) ?_ ?_
  · rw [foldl_copy_field Patch.id (g := fun _ => p.id) (fun _ => rfl) (copy_id p)]
    rfl
  · have hmem : Column.detail a ∈ columns := by cases a <;> decide
    rw [foldl_copy_field (fun q => q.detail a) (hor _) fun q d => copy_detail p q d a,
      if_pos hmem]
    exact Option.or_none
  · rw [foldl_copy_field Patch.dob (hor _) (copy_dob p)]
    exact Option.or_none
  · rw [foldl_copy_field Patch.metadata (g := fun _ => p.metadata) (fun _ => rfl)
      (copy_metadata p)]
    rfl

/-- The columns of the inputs that the patch of an identity is made of. -/
def inputColumns (i : Identity) : List Column :=
  .identityId :: .metadata :: Column.updatable.filter fun c => !isZero (i.get c)

theorem isZero_text (t : Text) : isZero (.text t) = decide (t = []) := by
  unfold isZero
  by_cases h : t = []
  · subst h
    rfl
  · simp [h]

theorem isZero_utcValue (d : Option UtcTime) : isZero (utcValue d) = d.isNone := by
  cases d with
  | none => rfl
  | some u => rfl

/-- The patch of an identity has the fields that are not empty. -/
theorem ofIdentity_eq (i : Identity) : ofIdentity i = .ok (ofFields i) := by
  have hinputs : ofIdentity i = ofInputs (Inputs.ofColumns (inputColumns i) i.get) := rfl
  have hget (c : Column) : Inputs.get? (Inputs.ofColumns (inputColumns i) i.get)
      (Text.ofString c.name) = if c ∈ inputColumns i then some (i.get c) else none :=
    Inputs.get?_ofColumns _ _ c
  have hmissing : missingId (Inputs.ofColumns (inputColumns i) i.get) = [] := by
    unfold missingId
    rw [hget, if_pos (by simp [inputColumns])]
  have hdetail (a : Detail) : Column.detail a ∈ inputColumns i ↔ i.detail a ≠ [] := by
    have hmem : Column.detail a ∈ Column.updatable := by cases a <;> decide
    simp [inputColumns, List.mem_filter, hmem, Identity.get, isZero_text]
  have hdob : Column.dob ∈ inputColumns i ↔ i.dob ≠ none := by
    have hmem : Column.dob ∈ Column.updatable := by decide
    simp [inputColumns, List.mem_filter, hmem, Identity.get, isZero_utcValue,
      Option.isSome_iff_ne_none]
  rw [hinputs, ofInputs, hmissing, Inputs.fill_eq (fun record c => copy (ofFields i) record c),
    foldl_copy]
  intro c hc record
  rw [Inputs.fillField, hget]
  cases c with
  | identityId =>
    rw [if_pos (by simp [inputColumns])]
    rfl
  | detail a =>
    simp only [hdetail, copy, ofFields]
    by_cases h : i.detail a = []
    · simp [h]
    · simp only [h, ne_eq, not_false_eq_true, if_true, if_false]
      rfl
  | dob =>
    simp only [hdob, copy, ofFields]
    cases hd : i.dob with
    | none => simp
    | some u =>
      simp only [ne_eq, reduceCtorEq, not_false_eq_true, if_true]
      show (readDateField _ (utcValue i.dob)).map _ = _
      rw [readDateField_utcValue, hd]
      rfl
  | createdAt => exact absurd hc (by decide)
  | metadata =>
    rw [if_pos (by simp [inputColumns])]
    show (readMetadataField _ (metadataValue i.metadata)).map _ = _
    rw [readMetadataField_metadataValue]
    rfl

end Patch

end Registry
