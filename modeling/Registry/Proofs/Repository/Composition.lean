import Registry.Proofs.Repository.Effect

/-!
# Updates one after the other

An update reads nothing but ids, so what it leaves behind is a function of the table alone: in the
rows of its id it puts some cells in place of others (`Patch.stored`), or none if it cannot be
executed. Of two updates of one id the later one wins field by field, updates that change different
fields or different rows can be exchanged, and a repeated update changes nothing
(`update_update`).
-/

namespace Registry

namespace Patch

/-! ## What an update leaves behind -/

/-- The cell that an update puts into a column; none if its metadata have no document or one of its
texts cannot be bound. -/
def stored (p : Patch) (c : Column) : Option Cell :=
  match p.document with
  | .error _ => none
  | .ok document =>
    match bindError? ((p.cells document).map Prod.snd ++ [textCell p.id]) with
    | some _ => none
    | none => p.cell? document c

/-- A row after an update, whether that succeeded or not. -/
def updated (p : Patch) (row : Row) : Row :=
  if row .identityId = textCell p.id then fun c => (p.stored c).getD (row c) else row

theorem updated_of_id {p : Patch} {row : Row} (h : row .identityId = textCell p.id) (c : Column) :
    p.updated row c = (p.stored c).getD (row c) := by rw [updated, if_pos h]

theorem updated_of_ne {p : Patch} {row : Row} (h : row .identityId ≠ textCell p.id) :
    p.updated row = row := if_neg h

/-- An update that stores nothing leaves a row as it was. -/
theorem updated_eq_self {p : Patch} (h : ∀ c, p.stored c = none) (row : Row) :
    p.updated row = row := by
  by_cases hid : row .identityId = textCell p.id
  · funext c
    rw [updated_of_id hid, h, Option.getD_none]
  · exact updated_of_ne hid

theorem stored_eq {p : Patch} {document : Text} (hd : p.document = .ok document)
    (hid : p.id.NoSurrogates) (hdetail : ∀ a, ∀ s ∈ p.detail a, s.NoSurrogates) (c : Column) :
    p.stored c = p.cell? document c := by
  have hbind := (Repository.bindError?_cells_iff hd).mpr ⟨hid, hdetail⟩
  simp only [stored, hd, hbind]

theorem stored_eq_none {p : Patch}
    (h : ∀ document, p.document = .ok document →
      ¬(p.id.NoSurrogates ∧ ∀ a, ∀ s ∈ p.detail a, s.NoSurrogates)) (c : Column) :
    p.stored c = none := by
  unfold stored
  cases hd : p.document with
  | error e => rfl
  | ok document =>
    simp only
    cases hbind : bindError? ((p.cells document).map Prod.snd ++ [textCell p.id]) with
    | some e => rfl
    | none => exact absurd ((Repository.bindError?_cells_iff hd).mp hbind) (h document hd)

/-- Columns that a patch has no field for are not changed. -/
theorem stored_of_not_mem_changes {p : Patch} {c : Column} (h : c ∉ p.changes.map Prod.fst) :
    p.stored c = none := by
  unfold stored
  split
  · rfl
  next document _ =>
  rw [mem_map_fst_changes_iff document] at h
  split
  · rfl
  · exact Option.eq_none_iff_forall_ne_some.mpr fun cell hcell => h ⟨cell, hcell⟩

theorem changes_of_noFields (p : Patch) (h : p.NoFields) : p.changes = [] :=
  (Repository.changes_eq_nil_iff p []).mpr ((Repository.cells_eq_nil_iff p []).mpr h)

theorem updated_identityId (p : Patch) (row : Row) :
    p.updated row .identityId = row .identityId := by
  unfold updated
  split
  · show (p.stored .identityId).getD _ = _
    rw [stored_of_not_mem_changes p.not_mem_changes.1, Option.getD_none]
  · rfl

end Patch

namespace Repository

/-- What an update leaves behind, on every lawful table. -/
theorem update_database {d : Database} (hd : d.Lawful) (p : Patch) :
    (update d none p).database = d.map fun t => t.map p.updated := by
  cases d with
  | none =>
    rcases update_cases none none p with ⟨e, he⟩ | ⟨document, t', count, -, hs, -⟩
    · rw [he, Option.map_none]
    · obtain ⟨t, ht, -⟩ := statement_eq_ok.mp hs
      cases ht
  | some t =>
    rw [Option.map_some]
    have hself (h : ∀ c, p.stored c = none) : t.map p.updated = t := by
      rw [funext (Patch.updated_eq_self h)]
      exact List.map_id t
    by_cases h : ∃ document, p.document = .ok document ∧ p.id.NoSurrogates
        ∧ ∀ a, ∀ s ∈ p.detail a, s.NoSurrogates
    · obtain ⟨document, hdoc, hid, hdetail⟩ := h
      have hstored := Patch.stored_eq hdoc hid hdetail
      by_cases hp : p.NoFields
      · rw [update_of_noFields _ _ hp, hself]
        exact fun c => Patch.stored_of_not_mem_changes (p.changes_of_noFields hp ▸ List.not_mem_nil)
      · have htable : p.patchTable document t = t.map p.updated := by
          refine List.map_congr_left fun row _ => ?_
          simp only [beq_iff_eq, Patch.updated, hstored]
          rfl
        rw [update_some (hd t rfl).filled hdoc hp hid hdetail, htable]
        split
        · rfl
        · next hno =>
          -- no row has the id
          refine congrArg some
            (((List.map_congr_left fun row hrow => ?_).trans (List.map_id t)).symm)
          refine Patch.updated_of_ne fun hid => hno (Table.hasId_iff.mpr ?_)
          exact List.mem_map.mpr ⟨row, hrow, hid⟩
    · -- such an update is not executed
      rw [hself (Patch.stored_eq_none fun document hdoc hbind => h ⟨document, hdoc, hbind⟩)]
      rcases update_cases (some t) none p with ⟨e, he⟩ | ⟨document, t', count, hdoc, hs, -⟩
      · rw [he]
      · obtain ⟨-, -, hbind, -⟩ := statement_eq_ok.mp hs
        exact absurd ⟨document, hdoc, (bindError?_cells_iff hdoc).mp hbind⟩ h

end Repository

namespace Patch

/-! ## Two updates -/

/-- Two patches of one id as one: each field is that of the second where it has one. -/
def andThen (p q : Patch) : Patch where
  id := q.id
  detail a := (q.detail a).or (p.detail a)
  dob := q.dob.or p.dob
  metadata := q.metadata.or p.metadata

theorem document_andThen {p q : Patch} {documentP documentQ : Text}
    (hp : p.document = .ok documentP) (hq : q.document = .ok documentQ) :
    (p.andThen q).document = .ok (if q.metadata.isSome then documentQ else documentP) := by
  unfold Patch.document andThen at *
  cases hm : q.metadata with
  | none => simpa [hm] using hp
  | some m => simpa [hm] using hq

theorem cell?_andThen (p q : Patch) (documentP documentQ : Text) (c : Column) :
    (p.andThen q).cell? (if q.metadata.isSome then documentQ else documentP) c
      = (q.cell? documentQ c).or (p.cell? documentP c) := by
  cases c with
  | identityId => rfl
  | createdAt => rfl
  | detail a =>
    show ((q.detail a).or (p.detail a)).map _ = ((q.detail a).map _).or ((p.detail a).map _)
    cases q.detail a <;> rfl
  | dob =>
    show (q.dob.or p.dob).map _ = (q.dob.map _).or (p.dob.map _)
    cases q.dob <;> rfl
  | metadata =>
    show (q.metadata.or p.metadata).map _ = (q.metadata.map _).or (p.metadata.map _)
    cases q.metadata <;> rfl

/-- The later update of two that can be executed wins column by column. -/
theorem stored_andThen {p q : Patch} (hid : p.id = q.id) (hp : Repository.HasDocument p.metadata)
    (hq : Repository.HasDocument q.metadata) (hpt : ∀ a, ∀ s ∈ p.detail a, s.NoSurrogates)
    (hqt : ∀ a, ∀ s ∈ q.detail a, s.NoSurrogates) (c : Column) :
    (p.andThen q).stored c = (q.stored c).or (p.stored c) := by
  obtain ⟨documentP, hp⟩ := Repository.exists_document_iff.mpr hp
  obtain ⟨documentQ, hq⟩ := Repository.exists_document_iff.mpr hq
  have hd := document_andThen hp hq
  have htexts : ∀ a, ∀ s ∈ (p.andThen q).detail a, s.NoSurrogates := by
    intro a s hs
    rcases Option.or_eq_some_iff.mp hs with hs | ⟨-, hs⟩
    · exact hqt a s hs
    · exact hpt a s hs
  by_cases hids : q.id.NoSurrogates
  · rw [stored_eq hd hids htexts, stored_eq hq hids hqt, stored_eq hp (hid ▸ hids) hpt,
      cell?_andThen]
  · -- the id is bound by all three, so none of them is executed
    have hnone {r : Patch} (hr : r.id = q.id) : r.stored c = none :=
      stored_eq_none (fun _ _ h => hids (hr ▸ h.1)) c
    rw [hnone (r := p.andThen q) rfl, hnone (r := q) rfl, hnone hid]
    rfl

/-- A row of another id is the same after two updates. -/
theorem updated_updated_of_ne {p q : Patch} {row : Row} (hp : row .identityId ≠ textCell p.id)
    (hq : row .identityId ≠ textCell q.id) : q.updated (p.updated row) = row := by
  rw [updated_of_ne hp, updated_of_ne hq]

theorem updated_updated_of_id {p q : Patch} {row : Row} (hp : row .identityId = textCell p.id)
    (hq : row .identityId = textCell q.id) (c : Column) :
    q.updated (p.updated row) c = ((q.stored c).or (p.stored c)).getD (row c) := by
  rw [updated_of_id ((p.updated_identityId row).trans hq), updated_of_id hp]
  cases q.stored c <;> rfl

theorem updated_andThen {p q : Patch} (hid : p.id = q.id)
    (h : ∀ c, (p.andThen q).stored c = (q.stored c).or (p.stored c)) (row : Row) :
    q.updated (p.updated row) = (p.andThen q).updated row := by
  by_cases hq : row .identityId = textCell q.id
  · funext c
    rw [updated_updated_of_id (hid ▸ hq) hq, updated_of_id (p := p.andThen q) hq, h]
  · rw [updated_updated_of_ne (hid ▸ hq) hq, updated_of_ne (p := p.andThen q) hq]

theorem updated_self (p : Patch) (row : Row) : p.updated (p.updated row) = p.updated row := by
  by_cases hp : row .identityId = textCell p.id
  · funext c
    rw [updated_updated_of_id hp hp, updated_of_id hp, Option.or_self]
  · rw [updated_updated_of_ne hp hp, updated_of_ne hp]

theorem updated_comm_of_disjoint {p q : Patch} (hid : p.id = q.id)
    (h : ∀ c, p.stored c = none ∨ q.stored c = none) (row : Row) :
    q.updated (p.updated row) = p.updated (q.updated row) := by
  by_cases hq : row .identityId = textCell q.id
  · have hp : row .identityId = textCell p.id := hid ▸ hq
    funext c
    rw [updated_updated_of_id hp hq, updated_updated_of_id hq hp]
    rcases h c with hc | hc
    · rw [hc, Option.or_none, Option.none_or]
    · rw [hc, Option.or_none, Option.none_or]
  · have hp : row .identityId ≠ textCell p.id := hid ▸ hq
    rw [updated_updated_of_ne hp hq, updated_updated_of_ne hq hp]

theorem updated_comm_of_ne {p q : Patch} (hid : p.id ≠ q.id) (row : Row) :
    q.updated (p.updated row) = p.updated (q.updated row) := by
  by_cases hp : row .identityId = textCell p.id
  · have hq : row .identityId ≠ textCell q.id := fun he => hid (Cell.text.inj (hp.symm.trans he))
    rw [updated_of_ne hq, updated_of_ne (p := q) (by rwa [updated_identityId])]
  · rw [updated_of_ne hp, updated_of_ne (p := p) (by rwa [updated_identityId])]

end Patch

namespace Repository

/-- On every lawful database, whatever the updates answer: of two updates of one id that can be
executed the later one wins field by field; an update that is repeated changes nothing more; and
updates of one id that have no field in common, or of different ids, come to the same in either
order. -/
theorem update_update (d : Database) (hd : d.Lawful) :
    (∀ p q : Patch, p.id = q.id → HasDocument p.metadata → HasDocument q.metadata →
        (∀ a, ∀ s ∈ p.detail a, s.NoSurrogates) → (∀ a, ∀ s ∈ q.detail a, s.NoSurrogates) →
        (update (update d none p).database none q).database
          = (update d none (p.andThen q)).database)
      ∧ (∀ p : Patch,
        (update (update d none p).database none p).database = (update d none p).database)
      ∧ (∀ p q : Patch, p.id = q.id →
        (∀ c ∈ p.changes.map Prod.fst, c ∉ q.changes.map Prod.fst) →
        (update (update d none p).database none q).database
          = (update (update d none q).database none p).database)
      ∧ ∀ p q : Patch, p.id ≠ q.id →
        (update (update d none p).database none q).database
          = (update (update d none q).database none p).database := by
  have htwo (p q : Patch) : (update (update d none p).database none q).database
      = d.map fun t => t.map fun row => q.updated (p.updated row) := by
    rw [update_database (update_lawful hd none p), update_database hd, Option.map_map]
    exact congrArg (d.map ·) (funext fun t => List.map_map)
  refine ⟨fun p q hid hp hq hpt hqt => ?_, fun p => ?_, fun p q hid hdisjoint => ?_,
    fun p q hid => ?_⟩
  · rw [htwo, update_database hd,
      funext (Patch.updated_andThen hid (Patch.stored_andThen hid hp hq hpt hqt))]
  · rw [htwo, update_database hd, funext p.updated_self]
  · rw [htwo, htwo, funext (Patch.updated_comm_of_disjoint hid fun c => ?_)]
    by_cases hc : c ∈ p.changes.map Prod.fst
    · exact .inr (Patch.stored_of_not_mem_changes (hdisjoint c hc))
    · exact .inl (Patch.stored_of_not_mem_changes hc)
  · rw [htwo, htwo, funext (Patch.updated_comm_of_ne hid)]

/-- A patch that sets the first name. -/
def renamed (id name : Text) : Patch :=
  { Patch.blank with id := id }.withDetail .firstName (some name)

/-- Setting metadata and then the first name, both at once, or in the other order, on a table with
garbled dates. -/
theorem update_update_garbledRow :
    (update (update (some garbledRows) none (verified "a")).database none
        (renamed "a" "Ada")).database
        = (update (some garbledRows) none ((verified "a").andThen (renamed "a" "Ada"))).database
      ∧ (update (update (some garbledRows) none (verified "a")).database none
          (renamed "a" "Ada")).database
        = (update (update (some garbledRows) none (renamed "a" "Ada")).database none
          (verified "a")).database
      ∧ ((update (some garbledRows) none ((verified "a").andThen (renamed "a" "Ada"))).database.map
          fun t => t.map fun row => (row (.detail .firstName), row .metadata))
        = some [(.text "Ada", .text (Text.ofString "\x7b\"verified\": true\x7d")),
          (.text [], .text "null")] := by
  have hlawful : Database.Lawful (some garbledRows) := by
    rintro _ ⟨⟩
    exact lawful_garbledRows
  have hdocument : HasDocument (verified "a").metadata :=
    (canonicalMetadata_verified "a").exists_encode
  have hrenamed : HasDocument (renamed "a" "Ada").metadata := ⟨Text.ofString "null", rfl⟩
  have htexts : ∀ a, ∀ s ∈ (renamed "a" "Ada").detail a, s.NoSurrogates := by
    intro a s hs
    cases a <;> cases hs
    decide
  obtain ⟨hlater, -, hdisjoint, -⟩ := update_update (some garbledRows) hlawful
  refine ⟨hlater _ _ rfl hdocument hrenamed (fun a s hs => nomatch hs) htexts,
    hdisjoint _ _ rfl (by decide), ?_⟩
  rw [update_database hlawful]
  decide +kernel

/-- An update whose texts cannot be bound is lost as a whole, and so is what a second one with it
would have changed: on its own the first is executed. -/
theorem update_update_surrogatePatch :
    Database.Lawful (some garbledRows)
      ∧ HasDocument (verified "a").metadata ∧ HasDocument (surrogatePatch "a").metadata
      ∧ (update (update (some garbledRows) none (verified "a")).database none
          (surrogatePatch "a")).database
        ≠ (update (some garbledRows) none
          ((verified "a").andThen (surrogatePatch "a"))).database := by
  have hlawful : Database.Lawful (some garbledRows) := by
    rintro _ ⟨⟩
    exact lawful_garbledRows
  refine ⟨hlawful, (canonicalMetadata_verified "a").exists_encode, ⟨Text.ofString "null", rfl⟩, ?_⟩
  rw [update_database (update_lawful hlawful none _), update_database hlawful,
    update_database hlawful]
  intro h
  have hmetadata := congrArg (fun d => d.map fun t => t.map fun row : Row => row .metadata) h
  exact absurd hmetadata (by decide +kernel)

end Repository

end Registry
