import Registry.Proofs.Repository.Request

/-!
# What holds of every stored row

Whatever a repository is asked for, starting with an empty table, and whatever faults the database
has, the rows keep distinct ids, their filled columns, metadata that can be read and dates in the
form of 26 code points (`Table.Sound`). The ids and times of creation are those that creating
assigned: a ledger kept from requests and answers alone agrees with them row by row
(`run_sound`).
-/

namespace Registry

/-! ## Sound tables -/

/-- The cell is a stored date: a text of 26 code points that is a reading at UTC. -/
def IsStoredDate (cell : Cell) : Prop :=
  ∃ (t : Text) (u : UtcTime), cell = .text t ∧ t.length = 26 ∧ t = storedText u.date u.time

/-- The cell is a document of metadata: a text that is decoded to nothing or a mapping. -/
def IsStoredMetadata (cell : Cell) : Prop :=
  ∃ (t : Text) (v : Value), cell = .text t ∧ Metadata.decode (.text t) = .ok v ∧ v.IsMapping

/-- What holds of a row that a repository keeps. -/
structure Row.Sound (row : Row) : Prop where
  filled : ∀ c : Column, c.isNullable = false → row c ≠ .null
  metadata : IsStoredMetadata (row .metadata)
  dob : row .dob = .null ∨ IsStoredDate (row .dob)
  createdAt : IsStoredDate (row .createdAt)

/-- What holds of a table that a repository keeps. -/
structure Table.Sound (t : Table) : Prop where
  ids : (t.map fun row => row .identityId).Nodup
  rows : ∀ row ∈ t, row.Sound

theorem isStoredDate_storedText (u : UtcTime) : IsStoredDate (.text (storedText u.date u.time)) :=
  ⟨_, u, rfl, length_storedText u.date u.time, rfl⟩

theorem isStoredMetadata_of_encode {m : Option Inputs} {document : Text}
    (h : Metadata.encode (metadataValue m) = .ok document) : IsStoredMetadata (.text document) :=
  ⟨document, _, rfl, Metadata.decode_of_encode (metadataValue_isMapping m) h,
    (metadataValue_isMapping m).canonical⟩

theorem Row.Sound.isFilled {row : Row} (h : row.Sound) : row.isFilled = true :=
  Row.isFilled_iff.mpr fun c hc => h.filled c (beq_eq_false_iff_ne.mpr hc)

theorem Row.Sound.of_isFilled {row : Row} (hf : row.isFilled = true)
    (hm : IsStoredMetadata (row .metadata)) (hd : row .dob = .null ∨ IsStoredDate (row .dob))
    (hc : IsStoredDate (row .createdAt)) : row.Sound :=
  ⟨fun c hn => Row.isFilled_iff.mp hf c (beq_eq_false_iff_ne.mp hn), hm, hd, hc⟩

theorem dob_utcCell (d : Option UtcTime) : utcCell d = .null ∨ IsStoredDate (utcCell d) := by
  cases d with
  | none => exact .inl rfl
  | some u => exact .inr (isStoredDate_storedText u)

theorem Table.Sound.empty : Table.Sound [] :=
  ⟨List.nodup_nil, fun _ h => absurd h List.not_mem_nil⟩

/-! ## What the statements preserve -/

theorem nodup_map_append_singleton {α β : Type} {f : α → β} {l : List α} {a : α}
    (h : (l.map f).Nodup) (ha : f a ∉ l.map f) : ((l ++ [a]).map f).Nodup := by
  rw [List.map_append, List.map_singleton, ← List.concat_eq_append]
  exact h.concat ha

theorem Table.insert_eq_ok {t t' : Table} {row : Row} (h : t.insert row = .ok t') :
    row.converted.isFilled = true ∧ row.converted .identityId ∉ t.map (fun r => r .identityId)
      ∧ t' = t ++ [row.converted] := by
  unfold Table.insert at h
  simp only at h
  split at h
  · next hc =>
    rw [Bool.and_eq_true, Bool.not_eq_true'] at hc
    refine ⟨hc.1, fun hmem => ?_, (Except.ok.inj h).symm⟩
    obtain ⟨r, hr, hid⟩ := List.mem_map.mp hmem
    have := List.any_eq_false.mp hc.2 r hr
    rw [hid] at this
    simp at this
  · cases h

/-- Inserting the row of a new identity keeps a table sound. -/
theorem Table.Sound.insert {t t' : Table} {random : Octets} {u : UtcTime} {i : Identity}
    {document : Text} (ht : t.Sound) (hd : Metadata.encode (metadataValue i.metadata) = .ok document)
    (h : t.insert ((Repository.created random u i).toRow document) = .ok t') :
    t'.Sound ∧ t' = t ++ [(Repository.created random u i).toRow document] := by
  obtain ⟨hf, hid, rfl⟩ := Table.insert_eq_ok h
  rw [converted_toRow] at hf hid
  rw [converted_toRow]
  have hnew : Row.Sound ((Repository.created random u i).toRow document) :=
    .of_isFilled hf (isStoredMetadata_of_encode hd) (dob_utcCell _) (isStoredDate_storedText u)
  exact ⟨⟨nodup_map_append_singleton ht.ids hid,
    List.forall_mem_append.mpr ⟨ht.rows, List.forall_mem_singleton.mpr hnew⟩⟩, rfl⟩

/-- A patched row is sound if the row was. -/
theorem Row.Sound.patch {p : Patch} {document : Text} {row : Row} (h : row.Sound)
    (hd : p.document = .ok document) : (p.patchRow document row).Sound := by
  refine .of_isFilled (Patch.patchRow_isFilled h.isFilled) ?_ ?_ h.createdAt
  · show IsStoredMetadata ((p.metadata.map fun _ => Cell.text document).getD (row .metadata))
    unfold Patch.document at hd
    cases hm : p.metadata with
    | none => exact h.metadata
    | some m =>
      rw [hm] at hd
      exact isStoredMetadata_of_encode hd
  · show (p.dob.map fun u => utcCell (some u)).getD (row .dob) = .null ∨ _
    show _ ∨ IsStoredDate ((p.dob.map fun u => utcCell (some u)).getD (row .dob))
    cases p.dob with
    | none => exact h.dob
    | some u => exact dob_utcCell (some u)

theorem Table.Sound.patch {p : Patch} {document : Text} {t : Table} (h : t.Sound)
    (hd : p.document = .ok document) : (p.patchTable document t).Sound := by
  refine ⟨?_, fun row hrow => ?_⟩
  · rw [Patch.map_patchTable p document t rfl]
    exact h.ids
  · obtain ⟨r, hr, rfl⟩ := List.mem_map.mp hrow
    show Row.Sound (if _ then p.patchRow document r else r)
    split
    · exact (h.rows r hr).patch hd
    · exact h.rows r hr

theorem Table.Sound.erase {t : Table} (h : t.Sound) (id : Cell) : (t.erase id).1.Sound :=
  ⟨h.ids.sublist (List.filter_sublist.map _), fun row hrow => h.rows row (List.mem_filter.mp hrow).1⟩

/-! ## The ledger of creations -/

/-- The id and the time of creation in a row. -/
def stamp (row : Row) : Cell × Cell := (row .identityId, row .createdAt)

/-- The ids that creating assigned and the times of creation, of what has not been deleted. -/
abbrev Ledger := List (Text × UtcTime)

namespace Ledger

/-- How the entries of a ledger stand in rows. -/
def stamps (l : Ledger) : List (Cell × Cell) :=
  l.map fun e => (.text e.1, .text (storedText e.2.date e.2.time))

/-- The ledger after a request is answered: creating adds the generated id with the time of the
clock at UTC, deleting removes an id, and nothing else changes anything. -/
def after (l : Ledger) (q : Repository.Request) (a : Repository.Answer) : Ledger :=
  match q, a with
  | .create random now _, .identity _ =>
    l ++ (now.toUtc?.map fun u => (Identifier.generate Repository.tag random, u)).toList
  | .delete id, .done => l.filter fun e => e.1 != id
  | _, _ => l

/-- The ledger after requests are answered one after the other. -/
def afterAll (l : Ledger) : List Repository.Call → List Repository.Answer → Ledger
  | (_, q) :: calls, a :: as => afterAll (l.after q a) calls as
  | _, _ => l

theorem stamps_filter (l : Ledger) (id : Text) :
    stamps (l.filter fun e => e.1 != id) = l.stamps.filter fun s => s.1 != .text id := by
  unfold stamps
  rw [List.filter_map]
  refine congrArg _ (List.filter_congr fun e _ => ?_)
  simp [bne]

end Ledger

theorem map_stamp_patchTable (p : Patch) (document : Text) (t : Table) :
    (p.patchTable document t).map stamp = t.map stamp := by
  unfold Patch.patchTable
  rw [List.map_map]
  refine List.map_congr_left fun row _ => ?_
  show stamp (if _ then p.patchRow document row else row) = stamp row
  split
  · rfl
  · rfl

theorem map_stamp_erase (t : Table) (id : Text) :
    (t.erase (textCell id)).1.map stamp = (t.map stamp).filter fun s => s.1 != .text id := by
  rw [List.filter_map]
  rfl

/-! ## Steps and runs -/

namespace Repository

/-- The table is sound and agrees with the ledger. -/
def Agrees (d : Database) (l : Ledger) : Prop :=
  ∃ t : Table, d = some t ∧ t.Sound ∧ t.map stamp = l.stamps

theorem agrees_create {d : Database} {l : Ledger} (h : Agrees d l) (fault : Option FaultPoint)
    (random : Octets) (now : DateTime) (i : Identity) :
    Agrees (create d fault random now i).database
      (l.after (.create random now i) (.ofResult .identity (create d fault random now i).result)) := by
  rcases create_cases d fault random now i with ⟨e, he⟩ | ⟨document, u, t', hd, hu, hins, he⟩
  · rw [he]
    exact h
  · obtain ⟨t, rfl, ht, hl⟩ := h
    obtain ⟨_, ⟨⟩, -, hins⟩ := insertion_eq_ok.mp hins
    obtain ⟨hsound, rfl⟩ := ht.insert hd hins
    rw [he]
    refine ⟨_, rfl, hsound, ?_⟩
    show _ = Ledger.stamps (l ++ _)
    rw [hu, List.map_append, hl, Ledger.stamps, Ledger.stamps, List.map_append]
    rfl

theorem agrees_update {d : Database} {l : Ledger} (h : Agrees d l) (fault : Option FaultPoint)
    (p : Patch) : Agrees (update d fault p).database l := by
  rcases update_cases d fault p with ⟨e, he⟩ | ⟨document, t', count, hd, hs, he⟩
  · rw [he]
    exact h
  · obtain ⟨t, rfl, ht, hl⟩ := h
    obtain ⟨_, ⟨⟩, -, hassign⟩ := statement_eq_ok.mp hs
    rw [Patch.assign_cells p document fun row hrow => (ht.rows row hrow).isFilled] at hassign
    obtain ⟨rfl, -⟩ := Prod.mk.inj (Except.ok.inj hassign)
    rw [he]
    exact ⟨_, rfl, ht.patch hd, (map_stamp_patchTable p document t).trans hl⟩

theorem agrees_delete {d : Database} {l : Ledger} (h : Agrees d l) (fault : Option FaultPoint)
    (id : Text) :
    Agrees (delete d fault id).database
      (l.after (.delete id) (.ofResult (fun _ => .done) (delete d fault id).result)) := by
  unfold delete
  rcases modify_cases d fault "Failed to delete identity" id [textCell id]
      (fun t => .ok (t.erase (textCell id))) with ⟨e, he⟩ | ⟨t', count, hs, -, he⟩
  · rw [he]
    exact h
  · obtain ⟨t, rfl, ht, hl⟩ := h
    obtain ⟨_, ⟨⟩, -, herase⟩ := statement_eq_ok.mp hs
    obtain ⟨rfl, -⟩ := Prod.mk.inj (Except.ok.inj herase)
    rw [he]
    refine ⟨_, rfl, ht.erase _, ?_⟩
    refine (map_stamp_erase t id).trans ?_
    rw [hl]
    exact (Ledger.stamps_filter l id).symm

/-- Answering a request keeps the table sound and in agreement with the ledger. -/
theorem agrees_step {d : Database} {l : Ledger} (h : Agrees d l) (r : Repository)
    (fault : Option FaultPoint) (q : Request) :
    Agrees (r.step d fault q).2 (l.after q (r.step d fault q).1) := by
  cases q with
  | create random now i => exact agrees_create h fault random now i
  | get elapsed id => exact h
  | getAll => exact h
  | patch p => exact agrees_update h fault p
  | update i =>
    show Agrees (updateWith d fault i).database l
    rw [updateWith_eq]
    exact agrees_update h fault _
  | delete id => exact agrees_delete h fault id

theorem agrees_run {d : Database} {l : Ledger} (h : Agrees d l) (r : Repository)
    (calls : List Call) : Agrees (r.run d calls).2 (l.afterAll calls (r.run d calls).1) := by
  induction calls generalizing d l with
  | nil => exact h
  | cons call rest ih =>
    obtain ⟨fault, q⟩ := call
    rw [run_cons]
    exact ih (agrees_step h r fault q)

/-- After any run from an empty table the table is sound, and its rows have, in their order, the ids
and times of creation that creating assigned. -/
theorem run_sound (r : Repository) (calls : List Call) :
    ∃ t : Table, (r.run (some []) calls).2 = some t ∧ t.Sound
      ∧ t.map stamp = (Ledger.afterAll [] calls (r.run (some []) calls).1).stamps :=
  agrees_run ⟨[], rfl, .empty, rfl⟩ r calls

end Repository

end Registry
