import Registry.Proofs.DateTime.Stored
import Registry.Proofs.Identity.Fields
import Registry.Proofs.Json.Writable
import Registry.Proofs.Metadata
import Registry.Repository.Row

/-!
# Rows of identities

The row of an identity is not changed by the conversions of the table (`converted_toRow`), and
reading it gives the identity back if its metadata are plain (`toIdentity_storedRecord`).
-/

namespace Registry

/-! ## Metadata of identities -/

theorem metadataValue_isMapping (m : Option Inputs) : (metadataValue m).IsMapping := by
  cases m with
  | none => exact trivial
  | some es => exact trivial

theorem nodup_of_plain {m : Option Inputs} (h : (metadataValue m).Plain) :
    ∀ es ∈ m, (es.map Prod.fst).Nodup := by
  rintro es rfl
  have h : (namedEntries es |>.map Prod.fst).Nodup ∧ _ := h
  exact Value.nodup_names rfl h.1

/-- Metadata as they are read back. -/
def Inputs.canonical (es : Inputs) : Inputs := lastOfEach (Value.canonicalEntries (namedEntries es))

theorem canonical_metadataValue (m : Option Inputs) :
    (metadataValue m).canonical = metadataValue (m.map Inputs.canonical) := by
  cases m with
  | none => rfl
  | some es => rfl

theorem map_lastOfEach_canonical (m : Option Inputs) :
    (m.map Inputs.canonical).map lastOfEach = m.map Inputs.canonical := by
  refine map_lastOfEach_eq_self fun es hes => ?_
  obtain ⟨es', -, rfl⟩ := Option.map_eq_some_iff.mp hes
  exact nodup_names_lastOfEach _

theorem readMetadataField_canonical (name : Text) (m : Option Inputs) :
    readMetadataField name (metadataValue m).canonical = .ok (m.map Inputs.canonical) := by
  rw [canonical_metadataValue, readMetadataField_metadataValue, map_lastOfEach_canonical]

theorem map_canonical_of_plain {m : Option Inputs} (h : (metadataValue m).Plain) :
    m.map Inputs.canonical = m := by
  have hread := readMetadataField_canonical [] m
  rw [Value.canonical_eq_self _ h, readMetadataField_metadataValue,
    map_lastOfEach_eq_self (nodup_of_plain h)] at hread
  exact (Except.ok.inj hread).symm

theorem Metadata.encode_isPrintable {v : Value} {t : Text} (h : Metadata.encode v = .ok t) :
    t.IsPrintable :=
  Json.writeValue_isPrintable v (encode_eq_ok_iff.mp h)

/-! ## Rows as they are stored -/

theorem utcCell_convert (d : Option UtcTime) : (utcCell d).convert .dateTime = utcCell d := by
  cases d with
  | none => rfl
  | some u => exact Cell.convert_storedText u.date u.time

/-- The columns of the table keep the cells of an identity. -/
theorem converted_toRow (i : Identity) (document : Text) :
    (i.toRow document).converted = i.toRow document := by
  funext c
  cases c with
  | dob => exact utcCell_convert i.dob
  | createdAt => exact utcCell_convert i.createdAt
  | _ => rfl

theorem utcCell_ne_null {d : Option UtcTime} : utcCell d ≠ .null ↔ d.isSome = true := by
  cases d with
  | none => simp [utcCell]
  | some u => simp [utcCell]

theorem Row.isFilled_iff {r : Row} :
    r.isFilled = true ↔ ∀ c : Column, c ≠ .dob → r c ≠ .null := by
  unfold Row.isFilled
  rw [List.all_eq_true]
  constructor
  · intro h c hc
    have := h c (Column.mem_all c)
    rw [Column.isNullable, beq_eq_false_iff_ne.mpr hc, Bool.false_or] at this
    exact bne_iff_ne.mp this
  · intro h c _
    by_cases hc : c = .dob
    · rw [Column.isNullable, hc]
      rfl
    · rw [bne_iff_ne.mpr (h c hc), Bool.or_true]

theorem isFilled_toRow {i : Identity} (document : Text) (h : i.createdAt.isSome = true) :
    (i.toRow document).isFilled = true := by
  rw [Row.isFilled_iff]
  intro c hc
  cases c with
  | dob => exact absurd rfl hc
  | createdAt => exact utcCell_ne_null.mpr h
  | _ => exact Cell.noConfusion

/-! ## Reading a row -/

/-- The value that a stored reading at UTC is read as: the reading without offset. -/
def localValue : Option UtcTime → Value
  | none => .null
  | some u => .dateTime ⟨u.date, u.time, none⟩

/-- The record that the row of an identity is fetched as. -/
def storedRecord (i : Identity) (document : Text) : Record
  | .identityId => .text i.id
  | .detail a => .text (i.detail a)
  | .dob => localValue i.dob
  | .createdAt => localValue i.createdAt
  | .metadata => .text document

theorem fetchDate_utcCell (d : Option UtcTime) : Row.fetchDate (utcCell d) = .ok (localValue d) := by
  cases d with
  | none => rfl
  | some u =>
    show Row.fetchDate (.text (storedText u.date u.time)) = _
    rw [Row.fetchDate, Iso.read_storedText]
    rfl

theorem fetch_toRow (i : Identity) (document : Text) :
    (i.toRow document).fetch = .ok (storedRecord i document) := by
  have hdob : Row.fetchDate (i.toRow document .dob) = .ok (localValue i.dob) :=
    fetchDate_utcCell i.dob
  have hcreated : Row.fetchDate (i.toRow document .createdAt) = .ok (localValue i.createdAt) :=
    fetchDate_utcCell i.createdAt
  unfold Row.fetch
  rw [hdob, hcreated]
  refine congrArg Except.ok (funext fun c => ?_)
  cases c <;> rfl

theorem readDateField_localValue (name : Text) (d : Option UtcTime) :
    readDateField name (localValue d) = .ok d := by
  cases d with
  | none => rfl
  | some u => exact readDateField_dateTime name rfl

/-- An identity with its metadata as they are read back. -/
def Identity.canonical (i : Identity) : Identity :=
  { i with metadata := i.metadata.map Inputs.canonical }

/-- An identity is read back from its row with its metadata in canonical form. -/
theorem toIdentity_storedRecord_canonical {i : Identity} {document : Text}
    (hd : Metadata.encode (metadataValue i.metadata) = .ok document) :
    (storedRecord i document).toIdentity = .ok i.canonical := by
  have hdecode := Metadata.decode_of_encode (metadataValue_isMapping i.metadata) hd
  have hinputs := Identity.ofInputs_eq (i := i.canonical)
    (fun c => if c = .metadata then (metadataValue i.metadata).canonical
      else storedRecord i document c)
    rfl (fun a => rfl) (fun name => readDateField_localValue name i.dob)
    (fun name => readDateField_localValue name i.createdAt)
    (fun name => readMetadataField_canonical name i.metadata)
  unfold Record.toIdentity
  rw [show storedRecord i document .metadata = .text document from rfl, hdecode]
  show (Identity.ofInputs (Inputs.ofColumns Column.all _)).mapError Cause.input = _
  rw [hinputs]
  rfl

/-- An identity with plain metadata is read back from its row. -/
theorem toIdentity_storedRecord {i : Identity} {document : Text}
    (hd : Metadata.encode (metadataValue i.metadata) = .ok document)
    (hp : (metadataValue i.metadata).Plain) :
    (storedRecord i document).toIdentity = .ok i := by
  rw [toIdentity_storedRecord_canonical hd, Identity.canonical, map_canonical_of_plain hp]

end Registry
