import Registry.Proofs.Repository.Atomicity
import Registry.Proofs.Repository.Escapes

/-!
# Which ids there are

Reading, patching and deleting decide in three ways whether there is an identity of an id: by the
rows that are found, and by how many rows a statement concerned. They agree on every lawful table,
also on rows that cannot be read, and no other failure has the code of an unknown id or of a request
that asks for nothing (`step_code_iff`).
-/

namespace Registry

/-- The error escapes, or it is a failure inside the store. -/
def StoreError.IsInternal (e : StoreError) : Prop :=
  ∀ code, e.hasCode code = true → code = .internalServer

theorem StoreError.isInternal_escaped (c : Cause) : (escaped c).IsInternal :=
  fun _ h => absurd h Bool.false_ne_true

theorem StoreError.isInternal_internal (message : String) (c : Cause) :
    (classified (Failure.internal message c)).IsInternal :=
  fun _ h => (eq_of_beq h).symm

namespace Repository

/-! ## Codes of failures -/

theorem isInternal_marshalError (e : MetadataError) : (marshalError e).IsInternal := by
  unfold marshalError
  split
  · exact StoreError.isInternal_escaped _
  · exact StoreError.isInternal_internal _ _

theorem isInternal_classify (e : StatementError) (message : String) :
    (e.classify message).IsInternal := by
  cases e with
  | database f => exact StoreError.isInternal_internal _ _
  | unencodable x => exact StoreError.isInternal_escaped _

theorem isInternal_readError (c : Cause) : (readError c).IsInternal := by
  unfold readError
  split
  · split
    · exact StoreError.isInternal_escaped _
    · exact StoreError.isInternal_internal _ _
  · exact StoreError.isInternal_internal _ _
  · exact StoreError.isInternal_escaped _
  · exact StoreError.isInternal_escaped _
  · split
    · exact StoreError.isInternal_internal _ _
    · exact StoreError.isInternal_escaped _
  · exact StoreError.isInternal_internal _ _

theorem isInternal_scanError (c : Cause) : (scanError c).IsInternal := by
  unfold scanError
  split
  · split
    · exact StoreError.isInternal_escaped _
    · exact StoreError.isInternal_internal _ _
  · exact StoreError.isInternal_internal _ _
  · exact StoreError.isInternal_escaped _

variable {r : Repository} {d : Database} {fault : Option FaultPoint}

theorem create_eq_error {random : Octets} {now : DateTime} {i : Identity} {e : StoreError}
    (h : (create d fault random now i).result = .error e) : e.IsInternal := by
  rw [create_eq] at h
  split at h
  · cases h
    exact isInternal_marshalError _
  split at h
  · cases h
    exact StoreError.isInternal_escaped _
  split at h
  · cases h
    exact StoreError.isInternal_escaped _
  split at h
  · cases h
    exact StoreError.isInternal_internal _ _
  split at h
  · cases h
    exact isInternal_classify _ _
  · cases h

theorem readId_eq_error {elapsed : Nat} {id : Text} {e : StoreError}
    (h : r.readId d fault elapsed id = .error e) :
    e.IsInternal ∨ e = .classified (Failure.notFound id) := by
  unfold readId at h
  split at h
  · cases h
    exact .inl (isInternal_readError _)
  split at h
  · cases h
    exact .inl (isInternal_readError _)
  · cases h
    exact .inr rfl
  · next row rest hquery =>
    cases hr : r.readRow elapsed row with
    | error c =>
      rw [hr] at h
      cases h
      exact .inl (isInternal_readError _)
    | ok i =>
      rw [hr] at h
      cases h

theorem getById_eq_error {elapsed : Nat} {id : Text} {e : StoreError}
    (h : (r.getById d fault elapsed id).result = .error e) :
    e.IsInternal ∨ e = .classified (Failure.notFound id) := by
  unfold getById at h
  split at h
  · cases h
    exact .inl (StoreError.isInternal_escaped _)
  split at h
  · cases h
    exact .inl (StoreError.isInternal_internal _ _)
  split at h
  · next hread =>
    cases h
    exact readId_eq_error hread
  · next hread =>
    cases h
    exact readId_eq_error hread
  split at h
  · cases h
    exact .inl (StoreError.isInternal_internal _ _)
  · cases h

theorem getAll_eq_error {e : StoreError} (h : getAll d fault = .error e) : e.IsInternal := by
  unfold getAll at h
  split at h
  · cases h
    exact StoreError.isInternal_internal _ _
  split at h
  · cases h
    exact StoreError.isInternal_internal _ _
  split at h
  · cases h
    exact StoreError.isInternal_internal _ _
  split at h
  · cases h
    exact StoreError.isInternal_escaped _
  · next records hfetch =>
    cases hs : scanAll records with
    | error c =>
      rw [hs] at h
      cases h
      exact isInternal_scanError _
    | ok is =>
      rw [hs] at h
      cases h

theorem modify_eq_error {message : String} {id : Text} {cells : List Cell}
    {f : Table → Except DatabaseFault (Table × Nat)} {e : StoreError}
    (h : (modify d fault message id cells f).result = .error e) :
    e.IsInternal ∨ e = .classified (Failure.notFound id) := by
  rw [modify_eq] at h
  split at h
  · cases h
    exact .inl (StoreError.isInternal_internal _ _)
  split at h
  · cases h
    exact .inl (StoreError.isInternal_internal _ _)
  split at h
  · cases h
    exact .inl (isInternal_classify _ _)
  split at h
  · cases h
    exact .inr rfl
  split at h
  · cases h
    exact .inl (StoreError.isInternal_internal _ _)
  · cases h

theorem update_eq_error {p : Patch} (hp : ¬p.NoFields) {e : StoreError}
    (h : (update d fault p).result = .error e) :
    e.IsInternal ∨ e = .classified (Failure.notFound p.id) := by
  rw [update_eq] at h
  split at h
  · cases h
    exact .inl (isInternal_marshalError _)
  · next document hd =>
    rw [if_neg (mt (cells_eq_nil_iff p document).mp hp)] at h
    exact modify_eq_error h

/-! ## Answers with a code -/

def Request.patch? : Request → Option Patch
  | .patch p => some p
  | .update i => some (Patch.ofFields i)
  | _ => none

/-- The answer is a failure of a category. -/
def Answer.HasCode (code : ErrorCode) (a : Answer) : Prop :=
  ∃ e, a = .failed e ∧ e.hasCode code = true

theorem step_of_patch? {q : Request} {p : Patch} (hq : q.patch? = some p) :
    r.step d fault q
      = (.ofResult (fun _ => .done) (update d fault p).result, (update d fault p).database) := by
  cases q with
  | patch p' =>
    cases hq
    rfl
  | update i =>
    cases hq
    rw [step, updateWith_eq]
  | _ => cases hq

/-- Every failure is inside the store, or of an unknown id, or of a patch that has no field. -/
theorem step_failed_cases {q : Request} {e : StoreError} (h : (r.step d fault q).1 = .failed e) :
    e.IsInternal ∨ (∃ id, e = .classified (Failure.notFound id))
      ∨ ∃ p, q.patch? = some p ∧ p.NoFields := by
  have hresult {α : Type} {answer : α → Answer} (ha : ∀ a e, answer a ≠ .failed e)
      {x : Except StoreError α} : Answer.ofResult answer x = .failed e → x = .error e :=
    (Answer.ofResult_eq_failed_iff ha).mp
  have hpatched {p : Patch} (hq : q.patch? = some p) :
      e.IsInternal ∨ (∃ id, e = .classified (Failure.notFound id))
        ∨ ∃ p, q.patch? = some p ∧ p.NoFields := by
    rw [step_of_patch? hq] at h
    by_cases hp : p.NoFields
    · exact .inr (.inr ⟨p, hq, hp⟩)
    · exact (update_eq_error hp (hresult (fun _ _ => Answer.noConfusion) h)).imp_right
        fun he => .inl ⟨p.id, he⟩
  cases q with
  | create random now i => exact .inl (create_eq_error (hresult (fun _ _ => Answer.noConfusion) h))
  | get elapsed id =>
    exact (getById_eq_error (hresult (fun _ _ => Answer.noConfusion) h)).imp_right
      fun he => .inl ⟨id, he⟩
  | getAll => exact .inl (getAll_eq_error (hresult (fun _ _ => Answer.noConfusion) h))
  | patch p => exact hpatched rfl
  | update i => exact hpatched rfl
  | delete id =>
    exact (modify_eq_error (hresult (fun _ _ => Answer.noConfusion) h)).imp_right
      fun he => .inl ⟨id, he⟩

/-- Only a patch that has no field is a bad request, and it always is one. -/
theorem hasCode_badRequest_iff {q : Request} :
    Answer.HasCode .badRequest (r.step d fault q).1 ↔ ∃ p, q.patch? = some p ∧ p.NoFields := by
  constructor
  · rintro ⟨e, he, hcode⟩
    rcases step_failed_cases he with hinternal | ⟨id, rfl⟩ | hp
    · exact absurd (hinternal _ hcode) ErrorCode.noConfusion
    · exact absurd hcode Bool.false_ne_true
    · exact hp
  · rintro ⟨p, hq, hp⟩
    rw [step_of_patch? hq, update_of_noFields d fault hp]
    exact ⟨_, rfl, rfl⟩

/-! ## Unknown ids -/

theorem hasId_textCell_iff {t : Table} {id : Text} :
    t.hasId (textCell id) = true ↔ ∃ row ∈ t, row .identityId = .text id := by
  rw [Table.hasId_iff, List.mem_map]
  rfl

theorem get_notFound_iff (hr : r.Ready) (t : Table) (elapsed : Nat) {id : Text}
    (hid : id.NoSurrogates) :
    Answer.HasCode .notFound (r.step (some t) none (.get elapsed id)).1
      ↔ t.hasId (textCell id) = false := by
  show Answer.HasCode .notFound
    (.ofResult .identity (r.getById (some t) none elapsed id).result) ↔ _
  rw [getById_result hr.bounded, readId_some hr t elapsed hid, ← Table.matching_eq_nil_iff]
  cases t.matching (textCell id) with
  | nil => exact iff_of_true ⟨_, rfl, rfl⟩ rfl
  | cons row rest =>
    refine iff_of_false ?_ (List.cons_ne_nil _ _)
    rintro ⟨e, he, hcode⟩
    simp only at he
    cases hread : r.readRow elapsed row with
    | error c =>
      rw [hread] at he
      cases he
      exact absurd (isInternal_readError c _ hcode) ErrorCode.noConfusion
    | ok i =>
      rw [hread] at he
      cases he

/-- What an operation that succeeds on some ids alone answers. -/
theorem notFound_iff_of_eq_ite {o : Outcome Unit} {found : Bool} {changed : Database} {id : Text}
    (ho : o = if found then ⟨.ok (), changed⟩
      else ⟨.error (.classified (Failure.notFound id)), d⟩) :
    (Answer.HasCode .notFound (.ofResult (fun _ => .done) o.result) ↔ found = false)
      ∧ (found = true → Answer.ofResult (fun _ => .done) o.result = .done) := by
  subst ho
  cases found with
  | false => exact ⟨iff_of_true ⟨_, rfl, rfl⟩ rfl, fun h => absurd h Bool.false_ne_true⟩
  | true =>
    refine ⟨iff_of_false ?_ Bool.noConfusion, fun _ => rfl⟩
    rintro ⟨e, he, -⟩
    cases he

/-- The request is one for the identity of an id; one for a change has some field to change, a
document for its metadata and texts that can be bound. -/
inductive Request.IsFor (id : Text) : Request → Prop
  | get (elapsed : Nat) : IsFor id (.get elapsed id)
  | change {q : Request} {p : Patch} (patch : q.patch? = some p) (addressed : p.id = id)
      (something : ¬p.NoFields) (document : HasDocument p.metadata)
      (encodable : ∀ a, ∀ t ∈ p.detail a, t.NoSurrogates) : IsFor id q
  | delete : IsFor id (.delete id)

theorem Request.IsFor.notFound_iff {q : Request} {id : Text} (hq : q.IsFor id) (hr : r.Ready)
    {t : Table} (ht : t.Lawful) (hid : id.NoSurrogates) :
    (Answer.HasCode .notFound (r.step (some t) none q).1 ↔ t.hasId (textCell id) = false)
      ∧ (t.hasId (textCell id) = true → q.isRead = false → (r.step (some t) none q).1 = .done) := by
  cases hq with
  | get elapsed =>
    exact ⟨get_notFound_iff hr t elapsed hid, fun _ h => nomatch h⟩
  | @change _ p patch addressed something document encodable =>
    subst addressed
    obtain ⟨document, hd⟩ := exists_document_iff.mpr document
    have hanswer := notFound_iff_of_eq_ite (update_some ht.filled hd something hid encodable)
    rw [step_of_patch? patch]
    exact ⟨hanswer.1, fun h _ => hanswer.2 h⟩
  | delete =>
    have hanswer := notFound_iff_of_eq_ite (delete_some t hid)
    exact ⟨hanswer.1, fun h _ => hanswer.2 h⟩

/-- On every lawful table the requests for an id are answered that there is none exactly if no row
has the id; where a row has it, also one that cannot be read, changes are made. On every database
exactly the patches that have no field are bad requests. -/
theorem step_code_iff (r : Repository) :
    (∀ (t : Table) (id : Text), r.Ready → t.Lawful → id.NoSurrogates → ∀ q : Request, q.IsFor id →
        (Answer.HasCode .notFound (r.step (some t) none q).1
          ↔ ¬∃ row ∈ t, row .identityId = .text id)
        ∧ ((∃ row ∈ t, row .identityId = .text id) → q.isRead = false
          → (r.step (some t) none q).1 = .done))
      ∧ ∀ (d : Database) (fault : Option FaultPoint) (q : Request),
        Answer.HasCode .badRequest (r.step d fault q).1 ↔ ∃ p, q.patch? = some p ∧ p.NoFields := by
  refine ⟨fun t id hr ht hid q hq => ?_, fun d fault q => hasCode_badRequest_iff⟩
  obtain ⟨hcode, hdone⟩ := hq.notFound_iff hr ht hid
  rw [← hasId_textCell_iff, Bool.not_eq_true]
  exact ⟨hcode, hdone⟩

/-- The row with a garbled date cannot be read, but it is found and changed. -/
theorem step_code_garbledRow :
    (∃ row ∈ [garbledRow], row .identityId = .text "a")
      ∧ (plainRepository.step (some [garbledRow]) none (.patch (verified "a"))).1 = .done
      ∧ (plainRepository.step (some [garbledRow]) none (.delete "a")).1 = .done
      ∧ ¬Answer.HasCode .notFound (plainRepository.step (some [garbledRow]) none (.get 250 "a")).1
      ∧ Answer.HasCode .notFound
        (plainRepository.step (some [garbledRow]) none (.get 250 "b")).1 := by
  have hready : plainRepository.Ready := plainRepository_inTime.ready
  have hlawful : Table.Lawful [garbledRow] := by
    refine ⟨fun row hrow => ?_, List.nodup_singleton _⟩
    rw [List.mem_singleton.mp hrow]
    exact isFilled_garbledRow
  have hrow : ∃ row ∈ [garbledRow], row .identityId = .text "a" :=
    ⟨garbledRow, List.mem_singleton.mpr rfl, rfl⟩
  have hno : ¬∃ row ∈ [garbledRow], row .identityId = .text "b" := by
    rintro ⟨row, hrow, hid⟩
    rw [List.mem_singleton.mp hrow] at hid
    exact absurd hid (by decide)
  have hpatch : (Request.patch (verified "a")).IsFor "a" :=
    .change rfl rfl (fun h => nomatch h.2.2) (canonicalMetadata_verified "a").exists_encode
      fun a t ht => nomatch ht
  have h := (step_code_iff plainRepository).1 [garbledRow]
  refine ⟨hrow, (h "a" hready hlawful (by decide) _ hpatch).2 hrow rfl,
    (h "a" hready hlawful (by decide) _ .delete).2 hrow rfl, ?_, ?_⟩
  · exact fun hcode => (h "a" hready hlawful (by decide) _ (.get 250)).1.mp hcode hrow
  · exact (h "b" hready hlawful (by decide) _ (.get 250)).1.mpr hno

/-! ## Texts and bounds that keep the answer from being given -/

/-- A patch with a surrogate as its first name: it can be made, but not be bound. -/
def surrogatePatch (id : Text) : Patch :=
  { Patch.blank with id := id }.withDetail .firstName (some [CodePoint.ofNat 0xD800])

/-- On the empty table nothing is found, but such a patch is not answered so, and neither is a read
with a bound that the server cannot be told, although no time exceeds it. -/
theorem surrogatePatch_not_notFound :
    Patch.ofInputs [(Text.ofString "identity_id", .text "a"),
        (Text.ofString "first_name", .text [CodePoint.ofNat 0xD800])] = .ok (surrogatePatch "a")
      ∧ ¬(surrogatePatch "a").NoFields ∧ HasDocument (surrogatePatch "a").metadata
      ∧ ¬Answer.HasCode .notFound
        (plainRepository.step (some []) none (.patch (surrogatePatch "a"))).1
      ∧ unboundedRepository.readTimeout.isExceededBy 250 = .ok false
      ∧ ¬Answer.HasCode .notFound (unboundedRepository.step (some []) none (.get 250 "a")).1 := by
  have hsome : ¬(surrogatePatch "a").NoFields := fun h => Option.some_ne_none _ (h.1 .firstName)
  have hdocument : HasDocument (surrogatePatch "a").metadata := ⟨Text.ofString "null", rfl⟩
  refine ⟨rfl, hsome, hdocument, ?_, rfl, ?_⟩
  · rintro ⟨e, he, hcode⟩
    have hanswer : (plainRepository.step (some []) none (.patch (surrogatePatch "a"))).1
        = .failed (.escaped (.unencodable ⟨0, 0, CodePoint.ofNat 0xD800⟩)) := rfl
    rw [hanswer] at he
    cases he
    exact absurd hcode Bool.false_ne_true
  · rintro ⟨e, he, hcode⟩
    have hanswer : (unboundedRepository.step (some []) none (.get 250 "a")).1
        = .failed (.escaped (.refused
          (Refusal.size "cannot convert float infinity to integer"))) := rfl
    rw [hanswer] at he
    cases he
    exact absurd hcode Bool.false_ne_true

end Repository

end Registry
