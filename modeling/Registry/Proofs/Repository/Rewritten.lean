import Registry.Proofs.Json.Fixed
import Registry.Proofs.Metadata.Language
import Registry.Proofs.Repository.Listing

/-!
# Metadata written again

Whether metadata that were read can be written again depends on their numbers only, and whether what
is written is read as the same on the surrogates that they hold unescaped (`rewrite_iff`). It is not
so that whatever can be read can be written: a document may hold a literal for what is no number, as
in `\x7b"a": NaN\x7d`, or a number beyond all finite ones, and the metadata that are read of it are
refused when the identity is written back (`decode_notANumber`).
-/

namespace Registry

namespace Metadata

theorem readBytes_eq_ok {b : Octets} {v : Value} (h : Json.readBytes b = .ok v) :
    ∃ t, Json.parse t = .ok v := by
  rw [Json.readBytes] at h
  split at h
  · next t _ => exact ⟨t, h⟩
  · cases h

/-- What is accepted is null, or a mapping or null that a text denotes. -/
theorem decode_eq_ok {stored v : Value} (h : decode stored = .ok v) :
    v = .null ∨ v.IsMapping ∧ ∃ t, Json.readAll t = .ok v := by
  unfold decode at h
  split at h
  · exact .inl (Except.ok.inj h).symm
  · exact .inl (Except.ok.inj h).symm
  · exact .inl (Except.ok.inj h).symm
  · next t _ =>
    obtain ⟨hv, hread⟩ := ofRead_eq_ok_iff.mp h
    exact .inr ⟨hv, t, mapError_eq_ok.mp (readText_eq_ok hread)⟩
  · next b _ =>
    obtain ⟨hv, hread⟩ := ofRead_eq_ok_iff.mp h
    obtain ⟨t, ht⟩ := readBytes_eq_ok hread
    exact .inr ⟨hv, t, mapError_eq_ok.mp ht⟩
  · cases h

theorem isMapping_of_decode {stored v : Value} (h : decode stored = .ok v) : v.IsMapping := by
  rcases decode_eq_ok h with rfl | ⟨hv, -⟩
  · exact trivial
  · exact hv

theorem given_of_decode {stored v : Value} (h : decode stored = .ok v) :
    v.Given Json.nestingLimit := by
  rcases decode_eq_ok h with rfl | ⟨-, t, ht⟩
  · exact trivial
  · exact Json.readAll_given ht

/-- Metadata that were read are written again if their numbers are finite, and are otherwise
refused as out of range. -/
theorem encode_of_decode {stored v : Value} (h : decode stored = .ok v) :
    v.AllFinite ∧ (∃ u, encode v = .ok u)
      ∨ ¬v.AllFinite ∧ encode v = .error (.unwritable .outOfRange) := by
  have hwrite := Json.writeValue_given v (given_of_decode h) (Nat.le_refl Json.nestingLimit)
  rcases hwrite with ⟨hv, u, hu⟩ | ⟨hv, hu⟩
  · exact .inl ⟨hv, u, encode_eq_ok_iff.mpr hu⟩
  · refine .inr ⟨hv, ?_⟩
    rw [encode, Json.write, hu]
    rfl

theorem exists_encode_iff {stored v : Value} (h : decode stored = .ok v) :
    (∃ u, encode v = .ok u) ↔ v.AllFinite := by
  rcases encode_of_decode h with ⟨hv, hu⟩ | ⟨hv, hu⟩
  · exact ⟨fun _ => hv, fun _ => hu⟩
  · constructor
    · rintro ⟨u, hok⟩
      rw [hu] at hok
      cases hok
    · exact fun hfinite => absurd hfinite hv

/-- What is written of metadata is read as the same exactly if they are plain. -/
theorem decode_encode_iff {v : Value} {u : Text} (hv : v.IsMapping) (h : encode v = .ok u) :
    decode (.text u) = .ok v ↔ v.Plain := by
  rw [decode_of_encode hv h, Except.ok.injEq, Value.canonical_eq_self_iff]

/-- What is read from a text without surrogates is plain. -/
theorem plain_of_decode {t : Text} {v : Value} (h : decode (.text t) = .ok v)
    (ht : t.NoSurrogates) : v.Plain := by
  cases t with
  | nil =>
    cases h
    exact trivial
  | cons c u =>
    obtain ⟨-, hread⟩ := ofRead_eq_ok_iff.mp h
    exact (Json.readAll_sound (mapError_eq_ok.mp (readText_eq_ok hread))).plain ht

end Metadata

/-! ## The metadata of identities that are read -/

/-- What the last field makes of its input, whatever the fields before it made, filling makes. -/
theorem Inputs.fill_last {α β : Type} {set : α → β → Value → Except InputFailure β}
    {name : α → Text} {inputs : Inputs} {P : β → Prop} {field : α} {v : Value}
    (hget : inputs.get? (name field) = some v)
    (hset : ∀ record, ∃ record', set field record v = .ok record' ∧ P record') (fields : List α)
    {record result : β} {errors : List FieldError}
    (h : fill set name inputs (fields ++ [field]) record errors = .ok result) : P result := by
  induction fields generalizing record errors with
  | nil =>
    obtain ⟨record', hok, hP⟩ := hset record
    simp only [List.nil_append, fill, hget, hok] at h
    cases errors with
    | nil =>
      cases h
      exact hP
    | cons e errors => cases h
  | cons first rest ih =>
    rw [List.cons_append, fill] at h
    split at h
    · exact ih h
    split at h
    · exact ih h
    · exact ih h
    · cases h

/-- Named entries with distinct names are taken for metadata as they are. -/
theorem readMetadataField_given {v : Value} {levels : Nat} (hv : v.IsMapping)
    (hgiven : v.Given levels) (name : Text) :
    ∃ m, readMetadataField name v = .ok m ∧ metadataValue m = v := by
  cases v with
  | null => exact ⟨none, rfl, rfl⟩
  | dict entries =>
    obtain ⟨-, hnodup, hentries⟩ := hgiven
    obtain ⟨es, rfl⟩ := hentries.exists_named
    have hread := readMetadataField_metadataValue name (some es)
    rw [map_lastOfEach_eq_self fun fs hfs => by
      cases hfs
      exact Value.nodup_names rfl hnodup] at hread
    exact ⟨some es, hread, rfl⟩
  | _ => cases hv

/-- An identity has the metadata of its inputs. -/
theorem Identity.ofInputs_metadata {i : Identity} {m : Option Inputs} (value : Column → Value)
    (hmeta : readMetadataField Column.metadata.name (value .metadata) = .ok m)
    (h : ofInputs (Inputs.ofColumns Column.all value) = .ok i) : i.metadata = m := by
  have hget : (Inputs.ofColumns Column.all value).get? (Text.ofString Column.metadata.name)
      = some (value .metadata) := by
    rw [Inputs.get?_ofColumns, if_pos (Column.mem_all _)]
  refine Inputs.fill_last (P := fun record : Identity => record.metadata = m)
    (v := value .metadata) ?_ (fun record => ?_) Column.all.dropLast h
  · exact hget
  refine ⟨{ record with metadata := m }, ?_, rfl⟩
  show (readMetadataField _ (value .metadata)).map _ = _
  rw [hmeta]
  rfl

/-- The metadata of an identity that is made of a row are those that its cell is decoded to. -/
theorem Row.ReadsAs.decode {row : Row} {i : Identity} (h : row.ReadsAs i) :
    Metadata.decode (row .metadata).toValue = .ok (metadataValue i.metadata) := by
  obtain ⟨record, hfetch, hidentity⟩ := h
  obtain ⟨-, -, hrest⟩ := Row.fetch_eq_ok hfetch
  rw [Record.toIdentity, hrest .metadata nofun nofun] at hidentity
  split at hidentity
  · cases hidentity
  · next m hm =>
    obtain ⟨m', hread, rfl⟩ := readMetadataField_given (Metadata.isMapping_of_decode hm)
      (Metadata.given_of_decode hm) (Text.ofString Column.metadata.name)
    have hkept := Identity.ofInputs_metadata
      (fun c => if c = .metadata then metadataValue m' else record c) hread
      (mapError_eq_ok.mp hidentity)
    rw [hm, hkept]

namespace Repository

theorem readsAs_of_readRow {r : Repository} {elapsed : Nat} {row : Row} {i : Identity}
    (h : r.readRow elapsed row = .ok i) : row.ReadsAs i := by
  rw [readRow_eq] at h
  split at h
  · cases h
  next record hfetch =>
  split at h
  · cases h
  next k hidentity =>
  split at h
  · cases h
  split at h
  · cases h
  · cases h
    exact ⟨record, hfetch, hidentity⟩

theorem readId_eq_ok {r : Repository} {d : Database} {fault : Option FaultPoint} {elapsed : Nat}
    {id : Text} {i : Identity} (h : r.readId d fault elapsed id = .ok i) :
    ∃ row, r.readRow elapsed row = .ok i := by
  unfold readId at h
  split at h
  · cases h
  split at h
  · cases h
  · cases h
  · next row rest _ => exact ⟨row, mapError_eq_ok.mp h⟩

theorem getById_eq_ok {r : Repository} {d : Database} {fault : Option FaultPoint} {elapsed : Nat}
    {id : Text} {i : Identity} (h : (r.getById d fault elapsed id).result = .ok i) :
    r.readId d fault elapsed id = .ok i := by
  unfold getById at h
  split at h
  · cases h
  split at h
  · cases h
  split at h
  · cases h
  · cases h
  next j hread =>
  split at h
  · cases h
  · cases h
    exact hread

/-- An identity that is read is made of a row. -/
theorem exists_readsAs_of_get {r : Repository} {d : Database} {fault : Option FaultPoint}
    {elapsed : Nat} {id : Text} {i : Identity}
    (h : (r.step d fault (.get elapsed id)).1 = .identity i) : ∃ row : Row, row.ReadsAs i := by
  obtain ⟨row, hrow⟩ := readId_eq_ok (getById_eq_ok (Answer.ofResult_eq_identity_iff.mp h))
  exact ⟨row, readsAs_of_readRow hrow⟩

/-! ## Failures to write metadata -/

/-- What is wrong with metadata, if that is the cause of a classified failure. -/
def metadataError? : StoreError → Option MetadataError
  | .classified ⟨_, _, some (.metadata m)⟩ => some m
  | _ => none

/-- The answer is the failure of metadata that have no document. -/
def Answer.IsMarshalFailure (a : Answer) : Prop :=
  ∃ m, a = .failed (.classified (Failure.internal "Failed to marshal metadata" (.metadata m)))

variable {r : Repository} {d : Database} {fault : Option FaultPoint}

theorem metadataError?_classify (e : StatementError) (message : String) :
    metadataError? (e.classify message) = none := by
  cases e <;> rfl

theorem metadataError?_modify {message : String} {id : Text} {cells : List Cell}
    {f : Table → Except DatabaseFault (Table × Nat)} {e : StoreError}
    (h : (modify d fault message id cells f).result = .error e) : metadataError? e = none := by
  rw [modify_eq] at h
  split at h
  · cases h
    rfl
  split at h
  · cases h
    rfl
  split at h
  · cases h
    exact metadataError?_classify _ _
  split at h
  · cases h
    rfl
  split at h
  · cases h
    rfl
  · cases h

/-- A result that has no metadata for its cause is no failure to write them. -/
theorem not_isMarshalFailure {α : Type} {answer : α → Answer} (ha : ∀ a e, answer a ≠ .failed e)
    {result : Except StoreError α} (h : ∀ e, result = .error e → metadataError? e = none) :
    ¬(Answer.ofResult answer result).IsMarshalFailure := by
  rintro ⟨m, hm⟩
  exact absurd (h _ ((Answer.ofResult_eq_failed_iff ha).mp hm)) nofun

/-- Creating fails for the metadata if they are out of range. -/
theorem isMarshalFailure_create_iff {random : Octets} {now : DateTime} {i : Identity}
    (h : (∃ u, Metadata.encode (metadataValue i.metadata) = .ok u)
      ∨ Metadata.encode (metadataValue i.metadata) = .error (.unwritable .outOfRange)) :
    (r.step d fault (.create random now i)).1.IsMarshalFailure
      ↔ ¬∃ u, Metadata.encode (metadataValue i.metadata) = .ok u := by
  show (Answer.ofResult .identity (create d fault random now i).result).IsMarshalFailure ↔ _
  rcases h with ⟨u, hu⟩ | h
  · refine iff_of_false (not_isMarshalFailure (by exact fun _ _ => nofun) fun e he => ?_)
      (not_not_intro ⟨u, hu⟩)
    rw [create_eq, hu] at he
    simp only at he
    split at he
    · cases he
      rfl
    split at he
    · cases he
      rfl
    split at he
    · cases he
      rfl
    split at he
    · cases he
      exact metadataError?_classify _ _
    · cases he
  · refine iff_of_true ⟨.unwritable .outOfRange, ?_⟩ (by simp [h])
    rw [create_eq, h]
    rfl

/-- Changing fails for the metadata of the patch if they are out of range. -/
theorem isMarshalFailure_patch_iff {p : Patch}
    (h : (∃ u, p.document = .ok u) ∨ p.document = .error (.unwritable .outOfRange)) :
    (r.step d fault (.patch p)).1.IsMarshalFailure ↔ ¬∃ u, p.document = .ok u := by
  show (Answer.ofResult (fun _ => .done) (update d fault p).result).IsMarshalFailure ↔ _
  rcases h with ⟨u, hu⟩ | h
  · refine iff_of_false (not_isMarshalFailure (by exact fun _ _ => nofun) fun e he => ?_)
      (not_not_intro ⟨u, hu⟩)
    rw [update_eq, hu] at he
    simp only at he
    split at he
    · cases he
      rfl
    · exact metadataError?_modify he
  · refine iff_of_true ⟨.unwritable .outOfRange, ?_⟩ (by simp [h])
    rw [update_eq, h]
    rfl

theorem step_update_eq (i : Identity) :
    r.step d fault (.update i) = r.step d fault (.patch (Patch.ofFields i)) := by
  show (Answer.ofResult (fun _ => .done) (updateWith d fault i).result,
    (updateWith d fault i).database) = _
  rw [updateWith_eq]
  rfl

/-- The document of the patch of an identity is the one of its metadata, if it has any. -/
theorem document_ofFields {i : Identity} {levels : Nat}
    (h : (metadataValue i.metadata).Given levels) :
    i.metadata = none ∧ (Patch.ofFields i).document = .ok []
      ∨ (Patch.ofFields i).document = Metadata.encode (metadataValue i.metadata) := by
  have hdistinct : i.metadata.map lastOfEach = i.metadata := by
    refine map_lastOfEach_eq_self fun es hes => ?_
    rw [hes] at h
    exact Value.nodup_names rfl h.2.1
  rw [Patch.document, Patch.ofFields]
  simp only [hdistinct]
  cases i.metadata with
  | none => exact .inl ⟨rfl, rfl⟩
  | some es => exact .inr rfl

/-- An identity whose metadata were read is refused for them exactly if a number in them is not
finite, by creating and by updating. -/
theorem isMarshalFailure_iff {stored : Value} {i : Identity}
    (h : Metadata.decode stored = .ok (metadataValue i.metadata)) :
    (∀ random now, (r.step d fault (.create random now i)).1.IsMarshalFailure
        ↔ ¬(metadataValue i.metadata).AllFinite)
      ∧ ((r.step d fault (.update i)).1.IsMarshalFailure
        ↔ ¬(metadataValue i.metadata).AllFinite) := by
  have hencode : (∃ u, Metadata.encode (metadataValue i.metadata) = .ok u)
      ∨ Metadata.encode (metadataValue i.metadata) = .error (.unwritable .outOfRange) :=
    (Metadata.encode_of_decode h).imp And.right And.right
  rw [← Metadata.exists_encode_iff h, step_update_eq]
  refine ⟨fun random now => isMarshalFailure_create_iff hencode, ?_⟩
  rcases document_ofFields (Metadata.given_of_decode h) with ⟨hnone, hdocument⟩ | hdocument
  · have hnull : ∃ u, Metadata.encode (metadataValue i.metadata) = .ok u := by
      rw [hnone]
      exact ⟨_, rfl⟩
    rw [isMarshalFailure_patch_iff (.inl ⟨_, hdocument⟩)]
    exact iff_of_false (not_not_intro ⟨_, hdocument⟩) (not_not_intro hnull)
  · rw [← hdocument] at hencode ⊢
    exact isMarshalFailure_patch_iff hencode

end Repository

/-! ## Writing again what was read -/

namespace Metadata

/-- Metadata that were read are written again exactly if all their numbers are finite, and what is
written is read as the same exactly if they are plain, which they are if they were read from a text
without surrogates. An identity that is read is refused for its metadata, when it is created or
updated again, exactly if a number in them is not finite. -/
theorem rewrite_iff {stored v : Value} (h : decode stored = .ok v) :
    ((∃ u, encode v = .ok u) ↔ v.AllFinite)
      ∧ (∀ u, encode v = .ok u → (decode (.text u) = .ok v ↔ v.Plain))
      ∧ (∀ t, stored = .text t → t.NoSurrogates → v.Plain)
      ∧ ∀ (r : Repository) d fault elapsed id i,
        (r.step d fault (.get elapsed id)).1 = .identity i → ∀ (r' : Repository) d' fault',
          (∀ random now, (r'.step d' fault' (.create random now i)).1.IsMarshalFailure
            ↔ ¬(metadataValue i.metadata).AllFinite)
          ∧ ((r'.step d' fault' (.update i)).1.IsMarshalFailure
            ↔ ¬(metadataValue i.metadata).AllFinite) := by
  refine ⟨exists_encode_iff h, fun u hu => decode_encode_iff (isMapping_of_decode h) hu, ?_, ?_⟩
  · rintro t rfl ht
    exact plain_of_decode h ht
  · intro r d fault elapsed id i hget r' d' fault'
    obtain ⟨row, hrow⟩ := Repository.exists_readsAs_of_get hget
    exact Repository.isMarshalFailure_iff hrow.decode

/-- A string in which a surrogate pair stands unescaped. -/
def rawPair : Text :=
  Text.ofString "\x7b\"a\": \"" ++ [CodePoint.ofNat 0xD83D, CodePoint.ofNat 0xDE00]
    ++ Text.ofString "\"\x7d"

/-- What is read of the unescaped pair: two code points, which are joined when they are read of
their escapes. -/
def rawPairValue : Value :=
  .dict [(.text "a", .text [CodePoint.ofNat 0xD83D, CodePoint.ofNat 0xDE00])]

theorem rewrite_iff_rawPair :
    decode (.text rawPair) = .ok rawPairValue ∧ (∃ u, encode rawPairValue = .ok u)
      ∧ ¬rawPairValue.Plain := by
  have hdecode : decode (.text rawPair) = .ok rawPairValue := by decide +kernel
  have hencode : encode rawPairValue
      = .ok (Text.ofString "\x7b\"a\": \"\\ud83d\\ude00\"\x7d") := by decide +kernel
  obtain ⟨-, hplain, -⟩ := rewrite_iff hdecode
  refine ⟨hdecode, ⟨_, hencode⟩, fun h => ?_⟩
  exact absurd ((hplain _ hencode).mpr h) (by decide +kernel)

/-- A literal for what is no number. -/
def notANumber : Text := "\x7b\"a\": NaN\x7d"

/-- What is accepted cannot always be written again. -/
theorem decode_notANumber :
    ∃ v, decode (.text notANumber) = .ok v ∧ encode v = .error (.unwritable .outOfRange) :=
  ⟨.dict [(.text "a", .float (.nan 0))], by decide +kernel, by decide +kernel⟩

end Metadata

end Registry
