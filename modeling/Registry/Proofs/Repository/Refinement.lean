import Registry.Proofs.Repository.Addressed

/-!
# A repository is a map

Answered without faults of the database, requests get the answers that a finite map from ids to
identities gives (`run_refines`). What a request has to be for that is its validity: metadata are
canonical, texts have no surrogates, clocks have an instant in the calendar and reads are in time.
The table after every request holds the rows of the bound identities; that is the simulation
relation, and `mapStep_step` shows that a step preserves it.
-/

namespace Registry

/-! ## The map -/

/-- An identity as a patch: its empty fields are absent. -/
def Patch.nonEmpty (i : Identity) : Patch where
  id := i.id
  detail a := if i.detail a = [] then none else some (i.detail a)
  dob := i.dob
  metadata := i.metadata

namespace Repository

/-- The identities that ids are bound to. -/
abbrev Bindings := Text → Option Identity

/-- How a map answers a request, and the map afterwards. -/
inductive MapStep : Bindings → Request → Answer → Bindings → Prop
  | create {m : Bindings} {random : Octets} {now : DateTime} {u : UtcTime} (i : Identity)
      (clock : now.toUtc? = some u) (fresh : m (Identifier.generate tag random) = none) :
      MapStep m (.create random now i)
        (.identity { i with id := Identifier.generate tag random, createdAt := some u })
        (Function.update m (Identifier.generate tag random)
          (some { i with id := Identifier.generate tag random, createdAt := some u }))
  | getBound {m : Bindings} {id : Text} {i : Identity} (elapsed : Nat) (bound : m id = some i) :
      MapStep m (.get elapsed id) (.identity i) m
  | getUnbound {m : Bindings} {id : Text} (elapsed : Nat) (unbound : m id = none) :
      MapStep m (.get elapsed id) (.failed (.classified (Failure.notFound id))) m
  | getAll {m : Bindings} {is : List Identity} (all : ∀ id i, m id = some i ↔ i ∈ is ∧ i.id = id)
      (once : (is.map Identity.id).Nodup)
      (latestFirst : is.Pairwise fun i j => j.createdInstant ≤ i.createdInstant) :
      MapStep m .getAll (.identities is) m
  | patchNothing {m : Bindings} {p : Patch} (nothing : p.NoFields) :
      MapStep m (.patch p)
        (.failed (.classified (Failure.badRequest "No fields provided for update"))) m
  | patchUnbound {m : Bindings} {p : Patch} (something : ¬p.NoFields) (unbound : m p.id = none) :
      MapStep m (.patch p) (.failed (.classified (Failure.notFound p.id))) m
  | patchBound {m : Bindings} {p : Patch} {i : Identity} (something : ¬p.NoFields)
      (bound : m p.id = some i) :
      MapStep m (.patch p) .done (Function.update m p.id (some (i.patched p)))
  | update {m m' : Bindings} {i : Identity} {a : Answer}
      (asPatch : MapStep m (.patch (Patch.nonEmpty i)) a m') : MapStep m (.update i) a m'
  | deleteUnbound {m : Bindings} {id : Text} (unbound : m id = none) :
      MapStep m (.delete id) (.failed (.classified (Failure.notFound id))) m
  | deleteBound {m : Bindings} {id : Text} {i : Identity} (bound : m id = some i) :
      MapStep m (.delete id) .done (Function.update m id none)

/-- How a map answers requests one after the other, and the map afterwards. -/
inductive MapRun : Bindings → List Request → List Answer → Bindings → Prop
  | nil (m : Bindings) : MapRun m [] [] m
  | cons {m m' m'' : Bindings} {q : Request} {qs : List Request} {a : Answer} {as : List Answer}
      (step : MapStep m q a m') (rest : MapRun m' qs as m'') : MapRun m (q :: qs) (a :: as) m''

/-! ## Valid requests -/

/-- A read of some duration is in time: the bound gives a deadline, the server can be told it, and
it is not exceeded. -/
structure InTime (r : Repository) (elapsed : Nat) : Prop where
  bounded : r.readTimeout.refusal? = none
  told : ∃ statements, r.readTimeout.statements r.dialect = .ok statements
  notExceeded : r.readTimeout.isExceededBy elapsed = .ok false

theorem InTime.ready {r : Repository} {elapsed : Nat} (h : r.InTime elapsed) : r.Ready :=
  ⟨h.bounded, h.told⟩

/-- The request is one that a map can answer. -/
def Request.Valid (r : Repository) : Request → Prop
  | .create _ now i => (∃ u, now.toUtc? = some u) ∧ CanonicalMetadata i.metadata
    ∧ ∀ a, (i.detail a).NoSurrogates
  | .get elapsed id => r.InTime elapsed ∧ id.NoSurrogates
  | .getAll => True
  | .patch p => CanonicalMetadata p.metadata ∧ p.id.NoSurrogates
    ∧ ∀ a, ∀ t ∈ p.detail a, t.NoSurrogates
  | .update i => CanonicalMetadata i.metadata ∧ i.Encodable
  | .delete id => id.NoSurrogates

/-- The id that a request generates. -/
def Request.generated? : Request → Option Text
  | .create random _ _ => some (Identifier.generate tag random)
  | _ => none

theorem generate_noSurrogates (random : Octets) :
    (Identifier.generate tag random).NoSurrogates :=
  (Text.generate_isPrintable (by decide) random).noSurrogates

/-! ## What a table of identities answers -/

/-- The identities are kept under distinct ids. -/
structure Holds (is : List Identity) : Prop where
  kept : ∀ i ∈ is, i.Kept
  ids : (is.map Identity.id).Nodup

theorem Holds.nil : Holds [] := ⟨fun _ h => absurd h List.not_mem_nil, List.nodup_nil⟩

theorem create_map_row {is : List Identity} {random : Octets} {now : DateTime} {u : UtcTime}
    {i : Identity} {document : Text} (hu : now.toUtc? = some u)
    (hd : Metadata.encode (metadataValue i.metadata) = .ok document)
    (hcopy : (metadataValue i.metadata).copyCalls ≤ callsLeft)
    (hi : ∀ a, (i.detail a).NoSurrogates)
    (hid : Identifier.generate tag random ∉ is.map Identity.id) :
    create (some (is.map Identity.row)) none random now i
      = ⟨.ok (created random u i), some ((is ++ [created random u i]).map Identity.row)⟩ := by
  have hrow : (created random u i).toRow document = (created random u i).row := by
    rw [Identity.row, Identity.document_eq (i := created random u i) hd]
  have hbind := (Identity.bindError?_toRow_iff (i := created random u i) hd).mpr
    ⟨generate_noSurrogates random, hi⟩
  have hinsert := insertion_eq_ok.mpr ⟨_, rfl, hbind, by rw [hrow]; exact insert_map_row rfl hid⟩
  rw [create_eq, hd]
  simp only [hu, if_neg (Nat.not_lt.mpr hcopy), reduceCtorEq, if_false, hinsert]

theorem getById_map_row {r : Repository} {is : List Identity} (h : Holds is) {elapsed : Nat}
    {id : Text} (hr : r.InTime elapsed) (hid : id.NoSurrogates) :
    (r.getById (some (is.map Identity.row)) none elapsed id).result
      = match lookup is id with
        | some i => .ok i
        | none => .error (.classified (Failure.notFound id)) := by
  rw [getById_result hr.bounded, readId_some hr.ready _ _ hid, matching_map_row, filter_id_eq h.ids]
  cases hl : lookup is id with
  | none => rfl
  | some i =>
    have hi := h.kept i ((lookup_eq_some h.ids).mp hl).1
    have hfetch : i.row.fetch = .ok (storedRecord i i.document) := fetch_toRow i i.document
    have hread : r.readRow elapsed i.row = .ok i := by
      rw [readRow_eq, hfetch]
      simp only [hi.toIdentity, hr.notExceeded, Bool.false_eq_true, if_false]
    simp only [Option.toList_some, List.map_cons, hread]
    rfl

theorem getAll_map_row {is : List Identity} (h : Holds is) :
    getAll (some (is.map Identity.row)) none = .ok (latestCreated is) := by
  have hscan : scanAll ((latestCreated is).map fun i => storedRecord i i.document)
      = .ok (latestCreated is) :=
    scanAll_stored fun i hi => h.kept i ((latestCreated_perm is).mem_iff.mp hi)
  have hcreated : ∀ i ∈ is, i.createdAt.isSome = true := fun i hi => (h.kept i hi).createdAt
  unfold getAll
  simp only [Database.table, latestFirst_map_row hcreated, fetchAll_map_row, hscan, reduceCtorEq,
    if_false]
  rfl

/-! ## What patches and deletions do to a table of identities -/

theorem exists_document {p : Patch} (h : CanonicalMetadata p.metadata) :
    ∃ document, p.document = .ok document := by
  unfold Patch.document
  cases hm : p.metadata with
  | none => exact ⟨[], rfl⟩
  | some m =>
    rw [hm] at h
    exact h.exists_encode

theorem update_map_row {is : List Identity} (h : Holds is) {p : Patch}
    (hm : CanonicalMetadata p.metadata) (hid : p.id.NoSurrogates)
    (hdetail : ∀ a, ∀ t ∈ p.detail a, t.NoSurrogates) (hp : ¬p.NoFields) :
    update (some (is.map Identity.row)) none p
      = match lookup is p.id with
        | some _ => ⟨.ok (), some ((patchIdentities p is).map Identity.row)⟩
        | none => ⟨.error (.classified (Failure.notFound p.id)), some (is.map Identity.row)⟩ := by
  obtain ⟨document, hd⟩ := exists_document hm
  have hfilled : ∀ row ∈ is.map Identity.row, row.isFilled = true := by
    intro row hrow
    obtain ⟨i, hi, rfl⟩ := List.mem_map.mp hrow
    exact isFilled_toRow i.document (h.kept i hi).createdAt
  rw [update_some hfilled hd hp hid hdetail, hasId_map_row, patchTable_map_row hd]
  cases lookup is p.id with
  | none => rfl
  | some i => rfl

theorem delete_map_row (is : List Identity) {id : Text} (hid : id.NoSurrogates) :
    delete (some (is.map Identity.row)) none id
      = match lookup is id with
        | some _ => ⟨.ok (), some ((is.filter fun i => i.id != id).map Identity.row)⟩
        | none => ⟨.error (.classified (Failure.notFound id)), some (is.map Identity.row)⟩ := by
  rw [delete_some _ hid, hasId_map_row, erase_map_row]
  cases lookup is id with
  | none => rfl
  | some i => rfl

/-! ## The simulation -/

theorem Holds.append {is : List Identity} (h : Holds is) {i : Identity} (hi : i.Kept)
    (hid : i.id ∉ is.map Identity.id) : Holds (is ++ [i]) :=
  ⟨List.forall_mem_append.mpr ⟨h.kept, List.forall_mem_singleton.mpr hi⟩,
    nodup_map_append_singleton h.ids hid⟩

theorem Holds.patch {is : List Identity} (h : Holds is) {p : Patch}
    (hm : CanonicalMetadata p.metadata) : Holds (patchIdentities p is) := by
  refine ⟨fun j hj => ?_, ?_⟩
  · obtain ⟨i, hi, rfl⟩ := List.mem_map.mp hj
    show Identity.Kept (if i.id = p.id then i.patched p else i)
    split
    · exact (h.kept i hi).patched hm
    · exact h.kept i hi
  · rw [map_id_patchIdentities]
    exact h.ids

theorem Holds.filter {is : List Identity} (h : Holds is) (keep : Identity → Bool) :
    Holds (is.filter keep) :=
  ⟨fun i hi => h.kept i (List.mem_filter.mp hi).1, h.ids.sublist (List.filter_sublist.map _)⟩

/-- A step goes from a table of identities to a table of identities, with the answer of a map, and
the only new id is one that the request generated. -/
def Simulates (r : Repository) (is : List Identity) (q : Request) : Prop :=
  ∃ is', (r.step (some (is.map Identity.row)) none q).2 = some (is'.map Identity.row) ∧ Holds is'
    ∧ MapStep (lookup is) q (r.step (some (is.map Identity.row)) none q).1 (lookup is')
    ∧ ∀ id ∈ is'.map Identity.id, id ∈ is.map Identity.id ∨ q.generated? = some id

theorem simulates_patch (r : Repository) {is : List Identity} (h : Holds is) {p : Patch}
    (hp : (Request.patch p).Valid r) : Simulates r is (.patch p) := by
  obtain ⟨hm, hid, hdetail⟩ := hp
  unfold Simulates step
  simp only
  by_cases hn : p.NoFields
  · rw [update_of_noFields _ _ hn]
    exact ⟨is, rfl, h, .patchNothing hn, fun id hid => .inl hid⟩
  rw [update_map_row h hm hid hdetail hn]
  cases hl : lookup is p.id with
  | none => exact ⟨is, rfl, h, .patchUnbound hn hl, fun id hid => .inl hid⟩
  | some i =>
    refine ⟨patchIdentities p is, rfl, h.patch hm, ?_, fun id hid => .inl ?_⟩
    · rw [lookup_patchIdentities, hl]
      exact .patchBound hn hl
    · rwa [map_id_patchIdentities] at hid

theorem ofFields_eq_nonEmpty {i : Identity} (h : CanonicalMetadata i.metadata) :
    Patch.ofFields i = Patch.nonEmpty i := by
  unfold Patch.ofFields Patch.nonEmpty
  rw [map_lastOfEach_eq_self (nodup_of_plain h.1)]

theorem simulates_create (r : Repository) {is : List Identity} (h : Holds is) {random : Octets}
    {now : DateTime} {i : Identity} (hq : (Request.create random now i).Valid r)
    (hid : Identifier.generate tag random ∉ is.map Identity.id) :
    Simulates r is (.create random now i) := by
  obtain ⟨⟨u, hu⟩, hm, hi⟩ := hq
  have hfree : lookup is (Identifier.generate tag random) = none :=
    List.find?_eq_none.mpr fun j hj he => hid (eq_of_beq he ▸ List.mem_map_of_mem hj)
  obtain ⟨document, hd⟩ := hm.exists_encode
  unfold Simulates step
  simp only [create_map_row hu hd hm.copyCalls_le hi hid]
  refine ⟨is ++ [created random u i], rfl, h.append ⟨hm, rfl⟩ hid, ?_, fun id hid => ?_⟩
  · rw [lookup_append hid]
    exact .create i hu hfree
  · rw [List.map_append, List.mem_append] at hid
    rcases hid with hid | hid
    · exact .inl hid
    · exact .inr (congrArg some (List.mem_singleton.mp hid).symm)

/-- An update is the patch of the fields that are not empty. -/
theorem simulates_update (r : Repository) {is : List Identity} (h : Holds is) {i : Identity}
    (hq : (Request.update i).Valid r) : Simulates r is (.update i) := by
  obtain ⟨hm, hi⟩ := hq
  have hvalid : (Request.patch (Patch.nonEmpty i)).Valid r := by
    refine ⟨hm, hi.id, fun a t ht => ?_⟩
    have ht' : (if i.detail a = [] then none else some (i.detail a)) = some t := ht
    split at ht'
    · cases ht'
    · cases ht'
      exact hi.detail a
  have hsame : r.step (some (is.map Identity.row)) none (.update i)
      = r.step (some (is.map Identity.row)) none (.patch (Patch.nonEmpty i)) := by
    unfold step
    simp only [updateWith_eq, ofFields_eq_nonEmpty hm]
  obtain ⟨is', hd, hh, hstep, hids⟩ := simulates_patch r h hvalid
  rw [← hsame] at hd hstep
  exact ⟨is', hd, hh, .update hstep, hids⟩

theorem simulates_delete (r : Repository) {is : List Identity} (h : Holds is) {id : Text}
    (hid : id.NoSurrogates) : Simulates r is (.delete id) := by
  unfold Simulates step
  simp only [delete_map_row is hid]
  cases hl : lookup is id with
  | none => exact ⟨is, rfl, h, .deleteUnbound hl, fun id hid => .inl hid⟩
  | some i =>
    refine ⟨is.filter fun i => i.id != id, rfl, h.filter _, ?_, fun k hk => .inl ?_⟩
    · rw [lookup_filter]
      exact .deleteBound hl
    · obtain ⟨j, hj, rfl⟩ := List.mem_map.mp hk
      exact List.mem_map_of_mem (List.mem_filter.mp hj).1

/-- A valid request is answered as the map of the bound identities answers it. -/
theorem mapStep_step (r : Repository) {is : List Identity} (h : Holds is) {q : Request}
    (hq : q.Valid r) (hfresh : ∀ id ∈ q.generated?, id ∉ is.map Identity.id) :
    Simulates r is q := by
  cases q with
  | create random now i => exact simulates_create r h hq (hfresh _ rfl)
  | get elapsed id =>
    unfold Simulates step
    simp only [getById_map_row h hq.1 hq.2]
    cases hl : lookup is id with
    | none => exact ⟨is, rfl, h, .getUnbound elapsed hl, fun id hid => .inl hid⟩
    | some i => exact ⟨is, rfl, h, .getBound elapsed hl, fun id hid => .inl hid⟩
  | getAll =>
    unfold Simulates step
    simp only [getAll_map_row h]
    refine ⟨is, rfl, h, .getAll (fun id i => ?_) ?_ (latestCreated_pairwise is),
      fun id hid => .inl hid⟩
    · rw [lookup_eq_some h.ids, (latestCreated_perm is).mem_iff]
    · exact ((latestCreated_perm is).map _).nodup_iff.mpr h.ids
  | patch p => exact simulates_patch r h hq
  | update i => exact simulates_update r h hq
  | delete id => exact simulates_delete r h hq

/-! ## Runs -/

/-- Requests without faults of the database. -/
def calls (qs : List Request) : List Call := qs.map fun q => (none, q)

theorem mapRun_run (r : Repository) {is : List Identity} (h : Holds is) {qs : List Request}
    (hvalid : ∀ q ∈ qs, q.Valid r) (hgen : (qs.filterMap Request.generated?).Nodup)
    (hfresh : ∀ id ∈ qs.filterMap Request.generated?, id ∉ is.map Identity.id) :
    ∃ is', (r.run (some (is.map Identity.row)) (calls qs)).2 = some (is'.map Identity.row)
      ∧ MapRun (lookup is) qs (r.run (some (is.map Identity.row)) (calls qs)).1 (lookup is') := by
  induction qs generalizing is with
  | nil => exact ⟨is, rfl, .nil _⟩
  | cons q qs ih =>
    have hq : ∀ id ∈ q.generated?, id ∉ is.map Identity.id := fun id hid =>
      hfresh id (List.mem_filterMap.mpr ⟨q, List.mem_cons_self, hid⟩)
    obtain ⟨is', hd, hh, hstep, hids⟩ := mapStep_step r h (hvalid q List.mem_cons_self) hq
    have hgen' : (qs.filterMap Request.generated?).Nodup
        ∧ ∀ id ∈ q.generated?, id ∉ qs.filterMap Request.generated? := by
      rw [List.filterMap_cons] at hgen
      cases hg : q.generated? with
      | none =>
        rw [hg] at hgen
        exact ⟨hgen, fun id hid => by cases hid⟩
      | some k =>
        rw [hg] at hgen
        rw [List.nodup_cons] at hgen
        exact ⟨hgen.2, fun id hid => Option.some.inj hid ▸ hgen.1⟩
    have hfresh' : ∀ id ∈ qs.filterMap Request.generated?, id ∉ is'.map Identity.id := by
      intro id hid hmem
      rcases hids id hmem with hold | hnew
      · obtain ⟨q', hq', hid'⟩ := List.mem_filterMap.mp hid
        exact hfresh id (List.mem_filterMap.mpr ⟨q', List.mem_cons_of_mem q hq', hid'⟩) hold
      · exact hgen'.2 id hnew hid
    obtain ⟨is'', hrun, hmap⟩ := ih hh (fun q' hq' => hvalid q' (List.mem_cons_of_mem q hq'))
      hgen'.1 hfresh'
    have hcons := run_cons r (some (is.map Identity.row)) none q (calls qs)
    rw [show calls (q :: qs) = (none, q) :: calls qs from rfl, hcons, hd]
    exact ⟨is'', hrun, .cons hstep hmap⟩

/-- From an empty table, valid requests whose generated ids never repeat get the answers of a map in
which nothing is bound at first. -/
theorem run_refines (r : Repository) {qs : List Request} (hvalid : ∀ q ∈ qs, q.Valid r)
    (hids : (qs.filterMap Request.generated?).Nodup) :
    ∃ m, MapRun (fun _ => none) qs (r.run (some []) (calls qs)).1 m := by
  obtain ⟨is, -, hrun⟩ := mapRun_run r Holds.nil hvalid hids
    fun id _ h => absurd h List.not_mem_nil
  exact ⟨lookup is, hrun⟩

/-! ## One life of an identity -/

/-- A repository on a database without a server. -/
def plainRepository : Repository := ⟨Text.ofString "sqlite", .standard⟩

/-- A reading of a clock that is two hours ahead of UTC. -/
def morning : DateTime :=
  ⟨⟨2024, 5, 1, by decide⟩, ⟨12, 0, 0, 123456, by decide⟩, some ⟨7200000000, by decide⟩⟩

/-- The same reading at UTC. -/
def morningUtc : UtcTime := ⟨⟨2024, 5, 1, by decide⟩, ⟨10, 0, 0, 123456, by decide⟩⟩

theorem toUtc?_morning : morning.toUtc? = some morningUtc := by decide +kernel

/-- An identity that has a first name. -/
def named (name : Text) : Identity := Identity.blank.withDetail .firstName name

theorem plainRepository_inTime : plainRepository.InTime 250 := ⟨rfl, ⟨[], rfl⟩, by decide +kernel⟩

theorem detail_named_noSurrogates {name : Text} (h : name.NoSurrogates) (a : Detail) :
    ((named name).detail a).NoSurrogates := by
  show Text.NoSurrogates (if a = .firstName then name else [])
  split
  · exact h
  · decide

/-- A patch that sets metadata. -/
def verified (id : Text) : Patch :=
  { Patch.blank with id := id, metadata := some [(Text.ofString "verified", .bool true)] }

/-- Creating an identity, reading it, changing its metadata, listing it and deleting it. -/
def oneLife : List Request :=
  let id := Identifier.generate tag []
  [.create [] morning (named "Ada"), .get 250 id, .patch (verified id), .getAll, .delete id]

theorem canonicalMetadata_verified (id : Text) : CanonicalMetadata (verified id).metadata := by
  have hkey : (Text.ofString "verified").NoSurrogates := by decide
  exact ⟨⟨List.nodup_singleton _, hkey.unpaired, trivial, trivial⟩,
    by decide, trivial, trivial, trivial⟩

theorem oneLife_valid : ∀ q ∈ oneLife, q.Valid plainRepository := by
  have hid := generate_noSurrogates []
  have hcreate : (Request.create [] morning (named "Ada")).Valid plainRepository :=
    ⟨⟨morningUtc, toUtc?_morning⟩, canonicalMetadata_none, detail_named_noSurrogates (by decide)⟩
  have hget : (Request.get 250 (Identifier.generate tag [])).Valid plainRepository :=
    ⟨plainRepository_inTime, hid⟩
  have hpatch : (Request.patch (verified (Identifier.generate tag []))).Valid plainRepository :=
    ⟨canonicalMetadata_verified _, hid, fun a t ht => by cases ht⟩
  simpa [oneLife, hcreate, hget, hpatch] using ⟨trivial, hid⟩

theorem run_refines_oneLife :
    ∃ m, MapRun (fun _ => none) oneLife (plainRepository.run (some []) (calls oneLife)).1 m :=
  run_refines plainRepository oneLife_valid (List.nodup_singleton _)

/-! ## What cannot be stored or told -/

/-- An identity whose first name is a surrogate: it can be made, but no database text holds it. -/
def surrogateNamed : Identity := named [⟨0xD800, by decide⟩]

/-- A repository that has to tell a server a bound that is infinite. -/
def unboundedRepository : Repository := ⟨Text.ofString "postgresql", .fractional (.infinite false)⟩

theorem not_encodable_surrogateNamed : ¬surrogateNamed.Encodable :=
  fun h => absurd (h.detail .firstName) (by decide)

theorem create_surrogateNamed (d : Database) :
    ∃ e, create d none [] morning surrogateNamed = ⟨.error e, d⟩ := by
  rcases create_cases d none [] morning surrogateNamed with h | ⟨document, u, t, hd, -, hins, -⟩
  · exact h
  · obtain ⟨-, -, hbind, -⟩ := insertion_eq_ok.mp hins
    have hi := (Identity.bindError?_toRow_iff (i := created [] u surrogateNamed) hd).mp hbind
    exact absurd ⟨by decide, hi.detail⟩ not_encodable_surrogateNamed

/-- A repository is no map for identities with such a name, although they are read from inputs, have
canonical metadata and are created at an instant in the calendar; nor is it one with such a bound,
although no read exceeds it. -/
theorem run_surrogateNamed_not_map :
    Identity.ofInputs [(Text.ofString "first_name", .text [⟨0xD800, by decide⟩])]
        = .ok surrogateNamed
      ∧ CanonicalMetadata surrogateNamed.metadata ∧ morning.toUtc? = some morningUtc
      ∧ (¬∃ m, MapRun (fun _ => none) [.create [] morning surrogateNamed]
        (plainRepository.run (some []) (calls [.create [] morning surrogateNamed])).1 m)
      ∧ unboundedRepository.readTimeout.isExceededBy 250 = .ok false
      ∧ ¬∃ m, MapRun (fun _ => none) [.get 250 "idt"]
        (unboundedRepository.run (some []) (calls [.get 250 "idt"])).1 m := by
  refine ⟨rfl, canonicalMetadata_none, toUtc?_morning, ?_, rfl, ?_⟩
  · rintro ⟨m, hrun⟩
    obtain ⟨e, he⟩ := create_surrogateNamed (some [])
    have hanswers : (plainRepository.run (some []) (calls [.create [] morning surrogateNamed])).1
        = [.failed e] := by
      show [Answer.ofResult .identity (create (some []) none [] morning surrogateNamed).result] = _
      rw [he]
      rfl
    rw [hanswers] at hrun
    cases hrun with
    | cons step rest => cases step
  · rintro ⟨m, hrun⟩
    have hanswers : (unboundedRepository.run (some []) (calls [.get 250 "idt"])).1
        = [.failed (.escaped (.refused
          (Refusal.size "cannot convert float infinity to integer")))] := rfl
    rw [hanswers] at hrun
    cases hrun with
    | cons step rest => cases step

end Repository

end Registry
