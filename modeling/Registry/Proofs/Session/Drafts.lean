import Registry.Proofs.DateTime.Stored
import Registry.Proofs.Repository.Kept
import Registry.Proofs.Repository.Lawful
import Registry.Session.Block

/-!
# Rows that are added

A draft is stored as the row of its values, bound and converted (`StoredAs`). What a database gains
from drafts are their rows, after those that it had and all admitted by the rules of the table
(`Database.Gains`). So it gains a list of drafts part by part (`Database.gains_append_iff`).
-/

namespace Registry

/-! ## Bound values -/

namespace Cell

theorem noSurrogates_of_bind {v : Value} {t : Text} (h : bind v = .ok (.text t)) :
    t.NoSurrogates := by
  cases v with
  | text s =>
    cases hs : EncodeError.of? s with
    | some e => simp [bind, hs] at h
    | none =>
      simp only [bind, hs, Except.ok.injEq, text.injEq] at h
      subst h
      exact EncodeError.of?_eq_none_iff.mp hs
  | dateTime d =>
    obtain rfl := text.inj (Except.ok.inj h)
    exact d.spacedText_isPrintable.noSurrogates
  | date d =>
    obtain rfl := text.inj (Except.ok.inj h)
    exact d.text_isPrintable.noSurrogates
  | int n =>
    rw [bind, bindInt] at h
    split at h <;> cases h
  | _ => cases h

theorem noSurrogates_of_bindDate {v : Value} {t : Text} (h : bindDate v = .ok (.text t)) :
    t.NoSurrogates := by
  cases v with
  | dateTime d =>
    obtain rfl := text.inj (Except.ok.inj h)
    exact (storedText_isPrintable d.date d.time).noSurrogates
  | date d =>
    obtain rfl := text.inj (Except.ok.inj h)
    exact (storedText_isPrintable d TimeOfDay.midnight).noSurrogates
  | _ => cases h

theorem noSurrogates_of_bindAs {type : ColumnType} {v : Value} {t : Text}
    (h : bindAs type v = .ok (.text t)) : t.NoSurrogates := by
  unfold bindAs at h
  split at h
  · exact noSurrogates_of_bindDate h
  · exact noSurrogates_of_bind h

end Cell

namespace Draft

theorem toRow_eq_ok_iff {r : Draft} {row : Row} :
    toRow r = .ok row ↔ ∀ c, bind r c = .ok (row c) := by
  unfold toRow
  rw [map_eq_ok]
  simp only [mapM_eq_ok, exists_and_right, exists_forall₂_iff]
  constructor
  · rintro ⟨hall, rfl⟩ c
    obtain ⟨cell, hcell⟩ := hall c (Column.mem_all c)
    simp only [hcell, Except.toOption, Option.getD_some]
  · intro h
    refine ⟨fun c _ => ⟨row c, h c⟩, ?_⟩
    funext c
    rw [h c]
    rfl

/-- What is bound can be encoded. -/
theorem bindError?_eq_none {r : Draft} {row : Row} (h : ∀ c, bind r c = .ok (row c)) :
    bindError? (Column.all.map row) = none := by
  refine Identity.bindError?_eq_none_iff.mpr ?_
  intro t ht
  obtain ⟨c, -, hc⟩ := List.mem_map.mp ht
  have hbind := h c
  rw [hc] at hbind
  exact Cell.noSurrogates_of_bindAs hbind

theorem checkDates_eq_ok {r : Draft} {row : Row} (h : ∀ c, bind r c = .ok (row c)) :
    checkDates r = .ok () := by
  have hdob : Cell.bindDate (r .dob) = .ok (row .dob) := h .dob
  have hcreated : Cell.bindDate (r .createdAt) = .ok (row .createdAt) := h .createdAt
  unfold checkDates
  rw [hdob, hcreated]
  rfl

end Draft

/-- The row that a draft is stored as. -/
def StoredAs (r : Draft) (row : Row) : Prop :=
  ∃ cells : Row, (∀ c, Draft.bind r c = .ok (cells c)) ∧ row = cells.converted

/-! ## Rows that the rules admit -/

/-- Rows can be put after those of a table: they are filled, and their ids are new and distinct. -/
structure Table.Admits (t rows : Table) : Prop where
  filled : ∀ row ∈ rows, Row.isFilled row = true
  fresh : ∀ row ∈ rows, t.hasId (row .identityId) = false
  distinct : (rows.map fun row => row .identityId).Nodup

namespace Table

theorem admits_nil (t : Table) : t.Admits [] := ⟨nofun, nofun, List.nodup_nil⟩

theorem admits_singleton_iff {t : Table} {row : Row} :
    t.Admits [row] ↔ Row.isFilled row = true ∧ t.hasId (row .identityId) = false := by
  constructor
  · intro h
    exact ⟨h.filled row List.mem_cons_self, h.fresh row List.mem_cons_self⟩
  · rintro ⟨hfilled, hfresh⟩
    exact ⟨List.forall_mem_singleton.mpr hfilled, List.forall_mem_singleton.mpr hfresh,
      List.nodup_singleton _⟩

theorem hasId_append (t rows : Table) (id : Cell) :
    (t ++ rows).hasId id = (t.hasId id || rows.hasId id) := List.any_append

theorem hasId_eq_false_iff {t : Table} {id : Cell} :
    t.hasId id = false ↔ ∀ row ∈ t, row .identityId ≠ id := by
  simp only [hasId, List.any_eq_false, beq_iff_eq, ne_eq]

/-- Ids that are distinct stay so where new ones come to them. -/
theorem nodup_ids_append {t rows : Table} (ht : (t.map fun row => row .identityId).Nodup)
    (hrows : (rows.map fun row => row .identityId).Nodup)
    (hfresh : ∀ row ∈ rows, t.hasId (row .identityId) = false) :
    ((t ++ rows).map fun row => row .identityId).Nodup := by
  rw [List.map_append, List.nodup_append]
  refine ⟨ht, hrows, ?_⟩
  intro _ hid _ hnew
  obtain ⟨x, hx, rfl⟩ := List.mem_map.mp hid
  obtain ⟨y, hy, rfl⟩ := List.mem_map.mp hnew
  exact hasId_eq_false_iff.mp (hfresh y hy) x hx

theorem admits_append_iff {t xs ys : Table} :
    t.Admits (xs ++ ys) ↔ t.Admits xs ∧ (t ++ xs).Admits ys := by
  constructor
  · rintro ⟨hfilled, hfresh, hdistinct⟩
    rw [List.forall_mem_append] at hfilled hfresh
    rw [List.map_append, List.nodup_append] at hdistinct
    obtain ⟨hxs, hys, hne⟩ := hdistinct
    refine ⟨⟨hfilled.1, hfresh.1, hxs⟩, hfilled.2, fun row hrow => ?_, hys⟩
    rw [hasId_append, hfresh.2 row hrow, Bool.false_or, hasId_eq_false_iff]
    exact fun x hx => hne _ (List.mem_map_of_mem hx) _ (List.mem_map_of_mem hrow)
  · rintro ⟨hx, hy⟩
    have hfresh : ∀ row ∈ ys,
        t.hasId (row .identityId) = false ∧ hasId xs (row .identityId) = false := by
      intro row hrow
      have h := hy.fresh row hrow
      rwa [hasId_append, Bool.or_eq_false_iff] at h
    exact ⟨List.forall_mem_append.mpr ⟨hx.filled, hy.filled⟩,
      List.forall_mem_append.mpr ⟨hx.fresh, fun row hrow => (hfresh row hrow).1⟩,
      nodup_ids_append hx.distinct hy.distinct fun row hrow => (hfresh row hrow).2⟩

theorem insert_eq_ok_iff {t t' : Table} {row : Row} :
    t.insert row = .ok t' ↔ t.Admits [row.converted] ∧ t' = t ++ [row.converted] := by
  rw [admits_singleton_iff]
  unfold insert
  simp only
  split
  · next hrules =>
    rw [Bool.and_eq_true, Bool.not_eq_true'] at hrules
    rw [Except.ok.injEq, eq_comm]
    exact (and_iff_right hrules).symm
  · next hrules =>
    rw [Bool.and_eq_true, Bool.not_eq_true'] at hrules
    exact iff_of_false nofun fun h => hrules h.1

theorem Lawful.append {t rows : Table} (h : t.Lawful) (ha : t.Admits rows) :
    (t ++ rows).Lawful :=
  ⟨List.forall_mem_append.mpr ⟨h.filled, ha.filled⟩,
    nodup_ids_append h.ids ha.distinct ha.fresh⟩

end Table

/-! ## What a database gains -/

/-- A database becomes another one by gaining the rows of all of the drafts: its table, which has to
be there if there are any, admits them and has them after its own. -/
def Database.Gains (d : Database) (drafts : List Draft) (d' : Database) : Prop :=
  ∃ rows, List.Forall₂ StoredAs drafts rows ∧ d' = d.map (· ++ rows)
    ∧ (drafts ≠ [] → d.isSome) ∧ ∀ t ∈ d, Table.Admits t rows

namespace Database

theorem gains_none_iff {drafts : List Draft} {d' : Database} :
    Gains none drafts d' ↔ drafts = [] ∧ d' = none := by
  constructor
  · rintro ⟨rows, -, rfl, hnil, -⟩
    exact ⟨Decidable.byContradiction fun hne => Bool.false_ne_true (hnil hne), rfl⟩
  · rintro ⟨rfl, rfl⟩
    exact ⟨[], .nil, rfl, fun h => absurd rfl h, nofun⟩

theorem gains_some_iff {t : Table} {drafts : List Draft} {d' : Database} :
    Gains (some t) drafts d'
      ↔ ∃ rows, List.Forall₂ StoredAs drafts rows ∧ d' = some (t ++ rows) ∧ t.Admits rows := by
  constructor
  · rintro ⟨rows, hrows, rfl, -, hadmits⟩
    exact ⟨rows, hrows, rfl, hadmits t rfl⟩
  · rintro ⟨rows, hrows, rfl, hadmits⟩
    exact ⟨rows, hrows, rfl, fun _ => rfl, fun _ h => Option.some.inj h ▸ hadmits⟩

theorem gains_nil_iff {d d' : Database} : d.Gains [] d' ↔ d' = d := by
  cases d with
  | none => rw [gains_none_iff, and_iff_right rfl]
  | some t =>
    rw [gains_some_iff]
    simp [Table.admits_nil]

/-- Drafts are gained part by part. -/
theorem gains_append_iff {d d' : Database} {xs ys : List Draft} :
    d.Gains (xs ++ ys) d' ↔ ∃ e, d.Gains xs e ∧ e.Gains ys d' := by
  cases d with
  | none =>
    simp only [gains_none_iff, List.append_eq_nil_iff]
    constructor
    · rintro ⟨⟨rfl, rfl⟩, rfl⟩
      exact ⟨none, ⟨rfl, rfl⟩, gains_nil_iff.mpr rfl⟩
    · rintro ⟨_, ⟨rfl, rfl⟩, hys⟩
      obtain ⟨rfl, rfl⟩ := gains_none_iff.mp hys
      exact ⟨⟨rfl, rfl⟩, rfl⟩
  | some t =>
    simp only [gains_some_iff, forall₂_append_left_iff]
    constructor
    · rintro ⟨_, ⟨rows, more, hrows, hmore, rfl⟩, rfl, hadmits⟩
      obtain ⟨hfirst, hrest⟩ := Table.admits_append_iff.mp hadmits
      refine ⟨_, ⟨rows, hrows, rfl, hfirst⟩, gains_some_iff.mpr ⟨more, hmore, ?_, hrest⟩⟩
      rw [List.append_assoc]
    · rintro ⟨_, ⟨rows, hrows, rfl, hfirst⟩, hys⟩
      obtain ⟨more, hmore, rfl, hrest⟩ := gains_some_iff.mp hys
      refine ⟨_, ⟨rows, more, hrows, hmore, rfl⟩, ?_,
        Table.admits_append_iff.mpr ⟨hfirst, hrest⟩⟩
      rw [List.append_assoc]

/-- Gaining rows keeps the rules of the table. -/
theorem Lawful.gains {d d' : Database} {drafts : List Draft} (h : d.Lawful)
    (hg : d.Gains drafts d') : d'.Lawful := by
  cases d with
  | none =>
    obtain ⟨-, rfl⟩ := gains_none_iff.mp hg
    exact h
  | some t =>
    obtain ⟨rows, -, rfl, hadmits⟩ := gains_some_iff.mp hg
    rintro _ ⟨⟩
    exact (h t rfl).append hadmits

end Database

end Registry
