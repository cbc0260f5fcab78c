import Registry.Proofs.Repository.Patched

/-!
# Runs of a repository

A request comes with everything that a repository draws from outside: the octets of the random
source, the time of the clock, how long a read takes, and perhaps a fault of the database. A request
that fails leaves the database as it was (`step_failed`).
-/

namespace Registry

namespace Repository

inductive Request
  | create (random : Octets) (now : DateTime) (i : Identity)
  | get (elapsed : Nat) (id : Text)
  | getAll
  | patch (p : Patch)
  | update (i : Identity)
  | delete (id : Text)

inductive Answer
  | identity (i : Identity)
  | identities (is : List Identity)
  | done
  | failed (e : StoreError)

def Answer.ofResult {α : Type} (answer : α → Answer) : Except StoreError α → Answer
  | .ok a => answer a
  | .error e => .failed e

theorem Answer.ofResult_eq_failed_iff {α : Type} {answer : α → Answer}
    (ha : ∀ a e, answer a ≠ .failed e) {x : Except StoreError α} {e : StoreError} :
    Answer.ofResult answer x = .failed e ↔ x = .error e := by
  cases x with
  | ok a => simp [Answer.ofResult, ha]
  | error e' => simp [Answer.ofResult]

theorem Answer.ofResult_eq_identity_iff {x : Except StoreError Identity} {i : Identity} :
    Answer.ofResult .identity x = .identity i ↔ x = .ok i := by
  cases x with
  | ok j => simp [Answer.ofResult]
  | error e => simp [Answer.ofResult]

theorem Answer.ofResult_eq_identities_iff {x : Except StoreError (List Identity)}
    {is : List Identity} : Answer.ofResult .identities x = .identities is ↔ x = .ok is := by
  cases x with
  | ok js => simp [Answer.ofResult]
  | error e => simp [Answer.ofResult]

def step (r : Repository) (d : Database) (fault : Option FaultPoint) : Request → Answer × Database
  | .create random now i =>
    let o := create d fault random now i
    (.ofResult .identity o.result, o.database)
  | .get elapsed id => (.ofResult .identity (r.getById d fault elapsed id).result, d)
  | .getAll => (.ofResult .identities (getAll d fault), d)
  | .patch p =>
    let o := update d fault p
    (.ofResult (fun _ => .done) o.result, o.database)
  | .update i =>
    let o := updateWith d fault i
    (.ofResult (fun _ => .done) o.result, o.database)
  | .delete id =>
    let o := delete d fault id
    (.ofResult (fun _ => .done) o.result, o.database)

/-- A request, and the fault that the database has while it is answered. -/
abbrev Call := Option FaultPoint × Request

/-- Answers requests one after the other. -/
def run (r : Repository) : Database → List Call → List Answer × Database
  | d, [] => ([], d)
  | d, (fault, q) :: rest =>
    let (a, d) := r.step d fault q
    let (as, d) := run r d rest
    (a :: as, d)

theorem run_cons (r : Repository) (d : Database) (fault : Option FaultPoint) (q : Request)
    (rest : List Call) :
    r.run d ((fault, q) :: rest)
      = ((r.step d fault q).1 :: (r.run (r.step d fault q).2 rest).1,
        (r.run (r.step d fault q).2 rest).2) := rfl

/-! ## What the operations that write can do -/

theorem updateWith_eq (d : Database) (fault : Option FaultPoint) (i : Identity) :
    updateWith d fault i = update d fault (Patch.ofFields i) := by
  rw [updateWith, Patch.ofIdentity_eq]

/-- Creating inserts the row of the identity that it gives, or fails. -/
theorem create_cases (d : Database) (fault : Option FaultPoint) (random : Octets) (now : DateTime)
    (i : Identity) :
    (∃ e, create d fault random now i = ⟨.error e, d⟩)
      ∨ ∃ document u t, Metadata.encode (metadataValue i.metadata) = .ok document
        ∧ now.toUtc? = some u ∧ insertion d ((created random u i).toRow document) = .ok t
        ∧ create d fault random now i = ⟨.ok (created random u i), some t⟩ := by
  rw [create_eq]
  cases Metadata.encode (metadataValue i.metadata) with
  | error e => exact .inl ⟨_, rfl⟩
  | ok document =>
    cases now.toUtc? with
    | none => exact .inl ⟨_, rfl⟩
    | some u =>
      simp only
      split
      · exact .inl ⟨_, rfl⟩
      split
      · exact .inl ⟨_, rfl⟩
      cases hins : insertion d ((created random u i).toRow document) with
      | error e => exact .inl ⟨_, rfl⟩
      | ok t => exact .inr ⟨document, u, t, rfl, rfl, hins, rfl⟩

/-- A statement that concerns some row is committed, or the operation fails. -/
theorem modify_cases (d : Database) (fault : Option FaultPoint) (message : String) (id : Text)
    (cells : List Cell) (f : Table → Except DatabaseFault (Table × Nat)) :
    (∃ e, modify d fault message id cells f = ⟨.error e, d⟩)
      ∨ ∃ t count, statement d cells f = .ok (t, count) ∧ 0 < count
        ∧ modify d fault message id cells f = ⟨.ok (), some t⟩ := by
  rw [modify_eq]
  split
  · exact .inl ⟨_, rfl⟩
  split
  · exact .inl ⟨_, rfl⟩
  cases hs : statement d cells f with
  | error e => exact .inl ⟨_, rfl⟩
  | ok x =>
    obtain ⟨t, count⟩ := x
    simp only
    split
    · exact .inl ⟨_, rfl⟩
    · next hcount =>
      split
      · exact .inl ⟨_, rfl⟩
      · exact .inr ⟨t, count, rfl, Nat.pos_of_ne_zero hcount, rfl⟩

/-- An update puts the cells of the patch into the table, or fails. -/
theorem update_cases (d : Database) (fault : Option FaultPoint) (p : Patch) :
    (∃ e, update d fault p = ⟨.error e, d⟩)
      ∨ ∃ document t count, p.document = .ok document
        ∧ statement d ((p.cells document).map Prod.snd ++ [textCell p.id])
          (fun t => t.assign (textCell p.id) (p.cells document)) = .ok (t, count)
        ∧ update d fault p = ⟨.ok (), some t⟩ := by
  rw [update_eq]
  cases p.document with
  | error e => exact .inl ⟨_, rfl⟩
  | ok document =>
    simp only
    split
    · exact .inl ⟨_, rfl⟩
    · rcases modify_cases d fault "Failed to update identity" p.id
          ((p.cells document).map Prod.snd ++ [textCell p.id])
          (fun t => t.assign (textCell p.id) (p.cells document)) with h | ⟨t, count, hs, -, h⟩
      · exact .inl h
      · exact .inr ⟨document, t, count, rfl, hs, h⟩

/-- A request that fails leaves the database as it was. -/
theorem step_failed {r : Repository} {d : Database} {fault : Option FaultPoint} {q : Request}
    {e : StoreError} (h : (r.step d fault q).1 = .failed e) : (r.step d fault q).2 = d := by
  have hresult {α : Type} {answer : α → Answer} {o : Outcome α}
      (ho : (∃ e, o = ⟨.error e, d⟩) ∨ ∃ a t, o = ⟨.ok a, some t⟩ ∧ ∀ e, answer a ≠ .failed e)
      (h : Answer.ofResult answer o.result = .failed e) : o.database = d := by
    rcases ho with ⟨e, rfl⟩ | ⟨a, t, rfl, ha⟩
    · rfl
    · exact absurd h (ha e)
  cases q with
  | create random now i =>
    refine hresult ?_ h
    rcases create_cases d fault random now i with h | ⟨document, u, t, -, -, -, h⟩
    · exact .inl h
    · exact .inr ⟨_, t, h, fun e => Answer.noConfusion⟩
  | get elapsed id => rfl
  | getAll => rfl
  | patch p =>
    refine hresult ?_ h
    rcases update_cases d fault p with h | ⟨document, t, count, -, -, h⟩
    · exact .inl h
    · exact .inr ⟨_, t, h, fun e => Answer.noConfusion⟩
  | update i =>
    refine hresult ?_ h
    rw [updateWith_eq]
    rcases update_cases d fault (Patch.ofFields i) with h | ⟨document, t, count, -, -, h⟩
    · exact .inl h
    · exact .inr ⟨_, t, h, fun e => Answer.noConfusion⟩
  | delete id =>
    refine hresult ?_ h
    rcases modify_cases d fault "Failed to delete identity" id [textCell id]
        (fun t => .ok (t.erase (textCell id))) with h | ⟨t, count, -, -, h⟩
    · exact .inl h
    · exact .inr ⟨_, t, h, fun e => Answer.noConfusion⟩

end Repository

end Registry
