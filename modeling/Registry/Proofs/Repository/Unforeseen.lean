import Registry.Proofs.Identity.Refused
import Registry.Proofs.Repository.Row

/-!
# Rows that are refused

A row is read as an identity in two steps. Its dates can be read or not (`Row.exists_fetch_iff`);
then its document can be nested too deeply or one of its dates can be beyond the calendar, which no
operation foresees (`toIdentity_unforeseen_iff`). Everything else that is refused is classified.
-/

namespace Registry

/-! ## Stored dates -/

/-- The cell holds no date or a readable one. -/
def Cell.IsDate (cell : Cell) : Prop := cell = .null ∨ ∃ t d, cell = .text t ∧ Iso.read t = .ok d

/-- The cell holds something else than a text. -/
def Cell.IsNoText (cell : Cell) : Prop := cell ≠ .null ∧ ∀ t, cell ≠ .text t

/-- The cell holds a date whose instant no calendar date at UTC has. -/
def Cell.BeyondCalendar (cell : Cell) : Prop :=
  ∃ t d, cell = .text t ∧ Iso.read t = .ok d ∧ d.toUtc? = none

namespace Row

theorem fetchDate_eq_dateKind_iff {cell : Cell} :
    fetchDate cell = .error .dateKind ↔ cell.IsNoText := by
  unfold fetchDate Cell.IsNoText
  cases cell with
  | text t => cases hread : Iso.read t <;> simp [hread]
  | _ => simp

theorem exists_fetchDate_iff {cell : Cell} : (∃ v, fetchDate cell = .ok v) ↔ cell.IsDate := by
  unfold fetchDate Cell.IsDate
  cases cell with
  | text t => cases hread : Iso.read t <;> simp [hread]
  | _ => simp

theorem beyondCalendar_of_fetchDate {cell : Cell} {v : Value} (h : fetchDate cell = .ok v) :
    Identity.BeyondCalendar v ↔ cell.BeyondCalendar := by
  unfold fetchDate at h
  unfold Identity.BeyondCalendar Cell.BeyondCalendar
  cases cell with
  | null =>
    cases h
    simp [Field.dateTime]
  | text t =>
    cases hread : Iso.read t with
    | error e => simp [hread] at h
    | ok d =>
      simp only [hread] at h
      cases h
      simp [Field.dateTime, hread]
  | _ => cases h

/-- Both dates of the row can be read. -/
def Dated (row : Row) : Prop := (row .dob).IsDate ∧ (row .createdAt).IsDate

/-- The first of the dates that cannot be read is no text. -/
def HasNoText (row : Row) : Prop :=
  (row .dob).IsNoText ∨ (row .dob).IsDate ∧ (row .createdAt).IsNoText

/-- An identity can be made of the row. -/
def IsIdentity (row : Row) : Prop :=
  ∃ record i, row.fetch = .ok record ∧ record.toIdentity = .ok i

/-- The dates of the row can be read, but its document is nested too deeply, or it has a document
and a date beyond the calendar. -/
inductive Unforeseen (row : Row) : Prop
  | nested {e : MetadataError} (dated : row.Dated)
      (unreadable : Metadata.decode (row .metadata).toValue = .error e)
      (nesting : e.isNesting = true)
  | beyondCalendar {v : Value} (dated : row.Dated)
      (readable : Metadata.decode (row .metadata).toValue = .ok v)
      (beyond : (row .dob).BeyondCalendar ∨ (row .createdAt).BeyondCalendar)

theorem exists_fetch_iff {row : Row} : (∃ record, row.fetch = .ok record) ↔ row.Dated := by
  unfold Dated fetch
  rw [← exists_fetchDate_iff, ← exists_fetchDate_iff]
  cases fetchDate (row .dob) with
  | error c => simp [bind, Except.bind]
  | ok dob =>
    cases fetchDate (row .createdAt) with
    | error c => simp [bind, Except.bind]
    | ok createdAt => simp [bind, Except.bind, pure, Except.pure]

theorem not_dated_of_fetch {row : Row} {c : Cause} (h : row.fetch = .error c) : ¬row.Dated := by
  intro hdated
  obtain ⟨record, hrecord⟩ := exists_fetch_iff.mpr hdated
  rw [h] at hrecord
  cases hrecord

theorem IsIdentity.dated {row : Row} (h : row.IsIdentity) : row.Dated := by
  obtain ⟨record, i, hrecord, -⟩ := h
  exact exists_fetch_iff.mp ⟨record, hrecord⟩

theorem Unforeseen.dated {row : Row} (h : row.Unforeseen) : row.Dated := by
  cases h with
  | nested dated => exact dated
  | beyondCalendar dated => exact dated

theorem fetch_eq_dateKind_iff {row : Row} :
    row.fetch = .error .dateKind ↔ row.HasNoText := by
  unfold HasNoText fetch
  rw [← exists_fetchDate_iff, ← fetchDate_eq_dateKind_iff, ← fetchDate_eq_dateKind_iff]
  cases fetchDate (row .dob) with
  | error c => simp [bind, Except.bind]
  | ok dob =>
    cases fetchDate (row .createdAt) with
    | error c => simp [bind, Except.bind]
    | ok createdAt => simp [bind, Except.bind, pure, Except.pure]

theorem fetch_eq_ok {row : Row} {record : Record} (h : row.fetch = .ok record) :
    fetchDate (row .dob) = .ok (record .dob) ∧ fetchDate (row .createdAt) = .ok (record .createdAt)
      ∧ ∀ c, c ≠ .dob → c ≠ .createdAt → record c = (row c).toValue := by
  unfold fetch at h
  cases hdob : fetchDate (row .dob) with
  | error c =>
    rw [hdob] at h
    cases h
  | ok dob =>
    cases hcreated : fetchDate (row .createdAt) with
    | error c =>
      rw [hdob, hcreated] at h
      cases h
    | ok createdAt =>
      rw [hdob, hcreated] at h
      cases h
      refine ⟨rfl, rfl, fun c hd hc => ?_⟩
      cases c with
      | dob => exact absurd rfl hd
      | createdAt => exact absurd rfl hc
      | _ => rfl

theorem fetch_eq_error {row : Row} {c : Cause} (h : row.fetch = .error c) :
    (∃ e, c = .date e) ∨ c = .dateKind := by
  have hdate {cell : Cell} (hcell : fetchDate cell = .error c) :
      (∃ e, c = .date e) ∨ c = .dateKind := by
    unfold fetchDate at hcell
    split at hcell
    · cases hcell
    · split at hcell
      · cases hcell
      · exact .inl ⟨_, (Except.error.inj hcell).symm⟩
    · exact .inr (Except.error.inj hcell).symm
  unfold fetch at h
  cases hdob : fetchDate (row .dob) with
  | error c' =>
    rw [hdob] at h
    cases h
    exact hdate hdob
  | ok dob =>
    cases hcreated : fetchDate (row .createdAt) with
    | error c' =>
      rw [hdob, hcreated] at h
      cases h
      exact hdate hcreated
    | ok createdAt =>
      rw [hdob, hcreated] at h
      cases h

end Row

/-! ## Identities of records -/

/-- No operation classifies a cause that making an identity of a record can have. -/
def Cause.IsUnforeseen : Cause → Prop
  | .metadata e => e.isNesting = true
  | .input .beyondCalendar => True
  | _ => False

/-- What making an identity of a record can fail with: its document, or its inputs. -/
theorem toIdentity_eq_error {record : Record} {c : Cause} (h : record.toIdentity = .error c) :
    (∃ e, c = .metadata e) ∨ (∃ errors, c = .input (.invalid errors))
      ∨ c = .input .beyondCalendar := by
  unfold Record.toIdentity at h
  cases hm : Metadata.decode (record .metadata) with
  | error e =>
    rw [hm] at h
    exact .inl ⟨e, (Except.error.inj h).symm⟩
  | ok m =>
    have hrefused := (Identity.ofInputs_eq_beyondCalendar_iff
      fun c => if c = .metadata then m else record c).2
    rw [hm] at h
    cases hi : Identity.ofInputs (record.inputs m) with
    | ok i => simp [hi, Except.mapError] at h
    | error f =>
      simp only [hi, Except.mapError, Except.error.injEq] at h
      subst h
      cases f with
      | invalid errors => exact .inr (.inl ⟨errors, rfl⟩)
      | beyondCalendar => exact .inr (.inr rfl)
      | refused r => exact absurd hi (hrefused r)

theorem toIdentity_unforeseen_iff {row : Row} {record : Record} (h : row.fetch = .ok record) :
    (∃ c, record.toIdentity = .error c ∧ c.IsUnforeseen) ↔ row.Unforeseen := by
  have hdated : row.Dated := Row.exists_fetch_iff.mp ⟨record, h⟩
  obtain ⟨hdob, hcreated, hrest⟩ := Row.fetch_eq_ok h
  have hmeta : record .metadata = (row .metadata).toValue := hrest .metadata nofun nofun
  unfold Record.toIdentity
  rw [hmeta]
  cases hm : Metadata.decode (row .metadata).toValue with
  | error e =>
    constructor
    · rintro ⟨c, he, hc⟩
      cases he
      exact .nested hdated hm hc
    · intro hrow
      cases hrow with
      | nested _ he hnesting =>
        rw [hm] at he
        cases he
        exact ⟨_, rfl, hnesting⟩
      | beyondCalendar _ hv => rw [hm] at hv; cases hv
  | ok m =>
    have hinputs := (Identity.ofInputs_eq_beyondCalendar_iff
      fun c => if c = .metadata then m else record c).1
    simp only [reduceCtorEq, if_false, Row.beyondCalendar_of_fetchDate hdob,
      Row.beyondCalendar_of_fetchDate hcreated] at hinputs
    constructor
    · rintro ⟨c, he, hc⟩
      cases hi : Identity.ofInputs (record.inputs m) with
      | ok i => simp [hi, Except.mapError] at he
      | error f =>
        simp only [hi, Except.mapError, Except.error.injEq] at he
        subst he
        cases f with
        | beyondCalendar => exact .beyondCalendar hdated hm (hinputs.mp hi)
        | _ => exact hc.elim
    · intro hrow
      cases hrow with
      | nested _ he => rw [hm] at he; cases he
      | beyondCalendar _ _ hbeyond =>
        have hi : Identity.ofInputs (record.inputs m) = .error .beyondCalendar :=
          hinputs.mpr hbeyond
        exact ⟨.input .beyondCalendar, by simp only [hi, Except.mapError], trivial⟩

end Registry
