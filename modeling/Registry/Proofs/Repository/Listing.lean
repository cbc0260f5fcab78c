import Registry.Proofs.Outcome
import Registry.Proofs.Repository.Escapes

/-!
# Listing and reading

Listing makes identities of all rows, and reading one identity makes one of the row of its id. Both
make the same of a row (`Row.ReadsAs`), so on every lawful table whose ids are texts a listing
succeeds exactly if all reads do, and then it gives what they give, row by row (`getAll_agrees`).
-/

namespace Registry

/-! ## Making an identity of a row -/

/-- The identity that is made of the row. -/
def Row.ReadsAs (row : Row) (i : Identity) : Prop :=
  ∃ record, row.fetch = .ok record ∧ record.toIdentity = .ok i

theorem Record.toIdentity_id {record : Record} {id : Text} {i : Identity}
    (hid : record .identityId = .text id) (h : record.toIdentity = .ok i) : i.id = id := by
  unfold toIdentity at h
  split at h
  · cases h
  · next m hm =>
    have hinputs : record.inputs m
        = Inputs.ofColumns Column.all fun c => if c = .metadata then m else record c := rfl
    rw [hinputs] at h
    refine Identity.ofInputs_id _ ?_ (mapError_eq_ok.mp h)
    rw [if_neg nofun, hid]

/-- The identity that is made of a row has the id of the row. -/
theorem Row.ReadsAs.id {row : Row} {i : Identity} (h : row.ReadsAs i) {id : Text}
    (hid : row .identityId = .text id) : i.id = id := by
  obtain ⟨record, hfetch, hidentity⟩ := h
  obtain ⟨-, -, hrest⟩ := Row.fetch_eq_ok hfetch
  refine Record.toIdentity_id ?_ hidentity
  rw [hrest .identityId nofun nofun, hid]
  rfl

/-! ## Rows of an id -/

/-- The rows of the id of a row are this row. -/
theorem Table.Lawful.matching_eq {t : Table} (h : t.Lawful) {row : Row} (hrow : row ∈ t) :
    t.matching (row .identityId) = [row] :=
  filter_eq_singleton h.ids hrow

theorem Table.latestFirst_perm (t : Table) : t.latestFirst.Perm t :=
  (List.mergeSort_perm _ _).trans t.reverse_perm

namespace Repository

/-! ## Reading one identity -/

theorem readRow_eq_ok_iff {r : Repository} {elapsed : Nat} (hr : r.InTime elapsed) {row : Row}
    {i : Identity} : r.readRow elapsed row = .ok i ↔ row.ReadsAs i := by
  rw [readRow_eq]
  unfold Row.ReadsAs
  cases row.fetch with
  | error c => simp
  | ok record =>
    cases hi : record.toIdentity with
    | error c => simp [hi]
    | ok j => simp [hi, hr.notExceeded]

/-- A read that is in time gives what is made of the row of its id. -/
theorem step_get_eq_identity_iff {r : Repository} {t : Table} (ht : t.Lawful) {elapsed : Nat}
    (hr : r.InTime elapsed) {row : Row} (hrow : row ∈ t) {id : Text}
    (hid : row .identityId = .text id) (hencodable : id.NoSurrogates) {i : Identity} :
    (r.step (some t) none (.get elapsed id)).1 = .identity i ↔ row.ReadsAs i := by
  have hmatching : t.matching (textCell id) = [row] := by
    rw [show textCell id = row .identityId from hid.symm]
    exact ht.matching_eq hrow
  show Answer.ofResult .identity (r.getById (some t) none elapsed id).result = _ ↔ _
  rw [Answer.ofResult_eq_identity_iff, getById_result hr.bounded,
    readId_some hr.ready t elapsed hencodable, hmatching]
  exact mapError_eq_ok.trans (readRow_eq_ok_iff hr)

/-! ## Reading all identities -/

/-- Rows are listed if an identity can be made of each. -/
theorem scanAll_fetchAll_iff {rows : List Row} {is : List Identity} :
    (∃ records, fetchAll rows = .ok records ∧ scanAll records = .ok is)
      ↔ List.Forall₂ Row.ReadsAs rows is := by
  induction rows generalizing is with
  | nil => simp [fetchAll, scanAll, List.forall₂_nil_left_iff, eq_comm]
  | cons row rest ih =>
    rw [List.forall₂_cons_left_iff]
    constructor
    · rintro ⟨records, hfetch, hscan⟩
      rw [fetchAll] at hfetch
      split at hfetch
      · cases hfetch
      · next record hrecord =>
        obtain ⟨records, hrest, rfl⟩ := map_eq_ok.mp hfetch
        rw [scanAll] at hscan
        split at hscan
        · cases hscan
        · next i hi =>
          obtain ⟨is, his, rfl⟩ := map_eq_ok.mp hscan
          exact ⟨i, is, ⟨record, hrecord, hi⟩, ih.mp ⟨records, hrest, his⟩, rfl⟩
    · rintro ⟨i, is, ⟨record, hrecord, hi⟩, hrest, rfl⟩
      obtain ⟨records, hfetch, hscan⟩ := ih.mpr hrest
      refine ⟨record :: records, ?_, ?_⟩
      · rw [fetchAll, hrecord, hfetch]
        rfl
      · rw [scanAll, hi, hscan]
        rfl

theorem getAll_eq_ok_iff {t : Table} {is : List Identity} :
    getAll (some t) none = .ok is ↔ List.Forall₂ Row.ReadsAs t.latestFirst is := by
  rw [← scanAll_fetchAll_iff]
  unfold getAll
  simp only [reduceCtorEq, if_false, Database.table]
  cases fetchAll t.latestFirst with
  | error c => simp
  | ok records => simp [mapError_eq_ok]

theorem step_getAll_eq_identities_iff {r : Repository} {t : Table} {is : List Identity} :
    (r.step (some t) none .getAll).1 = .identities is
      ↔ List.Forall₂ Row.ReadsAs t.latestFirst is :=
  Answer.ofResult_eq_identities_iff.trans getAll_eq_ok_iff

/-- A listing gives identities or fails. -/
theorem step_getAll_cases (r : Repository) (t : Table) :
    (∃ is, (r.step (some t) none .getAll).1 = .identities is)
      ∨ ∃ e, (r.step (some t) none .getAll).1 = .failed e := by
  show (∃ is, Answer.ofResult .identities (getAll (some t) none) = _)
    ∨ ∃ e, Answer.ofResult .identities (getAll (some t) none) = _
  cases getAll (some t) none with
  | error e => exact .inr ⟨e, rfl⟩
  | ok is => exact .inl ⟨is, rfl⟩

/-! ## The two ways of reading -/

/-- Every id is a text, and no text of a database has surrogates. -/
def HasTextIds (t : Table) : Prop :=
  ∀ row ∈ t, ∃ id : Text, row .identityId = .text id ∧ id.NoSurrogates

/-- The answer to a read of an id, every one of which takes its time. -/
def answerTo (r : Repository) (t : Table) (elapsed : Text → Nat) (id : Text) : Answer :=
  (r.step (some t) none (.get (elapsed id) id)).1

/-- On a lawful table whose ids are texts, and with reads that are in time, a listing succeeds
exactly if the reads of all ids do; then it has for every row the identity that is read for its id,
and if one of the reads fails it fails as a whole. -/
theorem getAll_agrees {r : Repository} {t : Table} (ht : t.Lawful) (hids : HasTextIds t)
    {elapsed : Text → Nat} (hr : ∀ id, r.InTime (elapsed id)) :
    ((∃ is, (r.step (some t) none .getAll).1 = .identities is)
        ↔ ∀ row ∈ t, ∃ id i, row .identityId = .text id ∧ r.answerTo t elapsed id = .identity i)
      ∧ (∀ is, (r.step (some t) none .getAll).1 = .identities is → t.latestFirst.Perm t
        ∧ List.Forall₂ (fun row i => row .identityId = .text i.id
          ∧ r.answerTo t elapsed i.id = .identity i) t.latestFirst is)
      ∧ ∀ row ∈ t, ∀ id e, row .identityId = .text id → r.answerTo t elapsed id = .failed e →
        ∃ e, (r.step (some t) none .getAll).1 = .failed e := by
  -- what is read for the id of a row is what is made of the row
  have hread {row : Row} (hrow : row ∈ t) {id : Text} (hid : row .identityId = .text id)
      {i : Identity} : r.answerTo t elapsed id = .identity i ↔ row.ReadsAs i := by
    obtain ⟨id', hid', hencodable⟩ := hids row hrow
    rw [hid] at hid'
    cases hid'
    exact step_get_eq_identity_iff ht (hr id) hrow hid hencodable
  have hlisted : (∃ is, (r.step (some t) none .getAll).1 = .identities is)
      ↔ ∀ row ∈ t, ∃ id i, row .identityId = .text id ∧ r.answerTo t elapsed id = .identity i := by
    simp only [step_getAll_eq_identities_iff, exists_forall₂_iff, t.latestFirst_perm.mem_iff]
    refine forall₂_congr fun row hrow => ?_
    obtain ⟨id, hid, -⟩ := hids row hrow
    constructor
    · rintro ⟨i, hi⟩
      exact ⟨id, i, hid, (hread hrow hid).mpr hi⟩
    · rintro ⟨id', i, hid', hi⟩
      exact ⟨i, (hread hrow hid').mp hi⟩
  refine ⟨hlisted, fun is his => ⟨t.latestFirst_perm, ?_⟩, fun row hrow id e hid hfails => ?_⟩
  · have hrows : List.Forall₂ (fun row i => row ∈ t ∧ row.ReadsAs i) t.latestFirst is :=
      (List.forall₂_and_left _ _).mpr
        ⟨fun row => t.latestFirst_perm.mem_iff.mp, step_getAll_eq_identities_iff.mp his⟩
    refine hrows.imp fun row i hi => ?_
    obtain ⟨id, hid, -⟩ := hids row hi.1
    obtain rfl := hi.2.id hid
    exact ⟨hid, (hread hi.1 hid).mpr hi.2⟩
  · refine (step_getAll_cases r t).resolve_left fun hsome => ?_
    obtain ⟨id', i, hid', hi⟩ := hlisted.mp hsome row hrow
    rw [hid] at hid'
    cases hid'
    rw [hi] at hfails
    cases hfails

/-! ## A garbled row in a listing -/

/-- An identity of an id with a time of creation. -/
def plainIdentity (id : Text) : Identity :=
  { Identity.blank with id := id, createdAt := some morningUtc }

/-- A row that can be read. -/
def healthyRow : Row := (plainIdentity "b").toRow "null"

/-- The row is read, but it is not listed beside a garbled row. -/
theorem getAll_agrees_garbledRow :
    plainRepository.answerTo [garbledRow, healthyRow] (fun _ => 250) "b"
        = .identity (plainIdentity "b")
      ∧ (∃ e, (plainRepository.step (some [garbledRow, healthyRow]) none .getAll).1 = .failed e)
      ∧ ∃ is, (plainRepository.step (some [healthyRow]) none .getAll).1 = .identities is := by
  have hhealthy : healthyRow.ReadsAs (plainIdentity "b") :=
    ⟨_, fetch_toRow _ _, toIdentity_storedRecord rfl trivial⟩
  have hfilled : ∀ row ∈ [garbledRow, healthyRow], row.isFilled = true := by
    simp only [List.forall_mem_cons]
    exact ⟨isFilled_garbledRow, by decide, nofun⟩
  have htexts : HasTextIds [garbledRow, healthyRow] := by
    simp only [HasTextIds, List.forall_mem_cons]
    exact ⟨⟨"a", rfl, by decide⟩, ⟨"b", rfl, by decide⟩, nofun⟩
  have hboth : Table.Lawful [garbledRow, healthyRow] := ⟨hfilled, by decide⟩
  have hone : Table.Lawful [healthyRow] :=
    ⟨fun row hrow => hfilled row (List.mem_cons_of_mem _ hrow), List.nodup_singleton _⟩
  have hread {t : Table} (ht : t.Lawful) (hmem : healthyRow ∈ t) :
      plainRepository.answerTo t (fun _ => 250) "b" = .identity (plainIdentity "b") :=
    (step_get_eq_identity_iff ht plainRepository_inTime hmem rfl (by decide)).mpr hhealthy
  refine ⟨hread hboth (by simp), ?_, ?_⟩
  · have hagrees := getAll_agrees hboth htexts fun _ => plainRepository_inTime
    exact hagrees.2.2 garbledRow List.mem_cons_self "a" _ rfl rfl
  · refine (getAll_agrees hone (fun row hrow => htexts row (List.mem_cons_of_mem _ hrow))
      fun _ => plainRepository_inTime).1.mpr fun row hrow => ?_
    rw [List.mem_singleton.mp hrow]
    exact ⟨"b", plainIdentity "b", rfl, hread hone List.mem_cons_self⟩

end Repository

end Registry
