import Mathlib.Data.List.Nodup
import Mathlib.Data.List.Induction
import Registry.Field
import Registry.Json.Writer
import Registry.Proofs.Text.Ascii
import Registry.Proofs.Value.Merge

/-!
# The canonical form of values

What a value is after it has been written as a document and read back: sequences are lists, keys are
names, of the entries with one name the last value is kept at the place of the first, and surrogate
pairs are joined. The reader keeps entries by putting one after the other into a mapping; that gives
the last value of each name (`dictOf_named`). A plain value is its own canonical form
(`canonical_eq_self`).
-/

namespace Registry

/-! ## Named entries -/

/-- Named entries as the entries of a mapping. -/
def namedEntries (es : List (Text × Value)) : List (Value × Value) :=
  es.map fun e => (.text e.1, e.2)

def lastValue (es : List (Text × Value)) (name : Text) : Value :=
  es.foldl (fun v e => if e.1 = name then e.2 else v) .null

/-- The last value of each name, in the order of the names' first places. -/
def lastOfEach (es : List (Text × Value)) : List (Text × Value) :=
  (es.map Prod.fst).eraseDups.map fun name => (name, lastValue es name)

theorem lastValue_append_singleton (es : List (Text × Value)) (n : Text) (v : Value) (m : Text) :
    lastValue (es ++ [(n, v)]) m = if n = m then v else lastValue es m := by
  rw [lastValue, List.foldl_append]
  rfl

theorem eraseDups_append_singleton (ns : List Text) (n : Text) :
    (ns ++ [n]).eraseDups = if n ∈ ns then ns.eraseDups else ns.eraseDups ++ [n] := by
  rw [List.eraseDups_append]
  by_cases h : n ∈ ns
  · simp [List.removeAll, h]
  · simp [List.removeAll, h, List.eraseDups_cons]

theorem nodup_eraseDups (ns : List Text) : ns.eraseDups.Nodup := by
  induction ns using List.reverseRecOn with
  | nil => exact .nil
  | append_singleton ns n ih =>
    rw [eraseDups_append_singleton]
    split
    · exact ih
    · next h =>
      rw [← List.concat_eq_append]
      exact ih.concat (by simpa using h)

theorem eraseDups_eq_self {ns : List Text} (h : ns.Nodup) : ns.eraseDups = ns := by
  induction ns using List.reverseRecOn with
  | nil => rfl
  | append_singleton ns n ih =>
    rw [List.nodup_append] at h
    have hn : n ∉ ns := fun hm => h.2.2 n hm n (by simp) rfl
    rw [eraseDups_append_singleton, if_neg hn, ih h.1]

/-- Putting a value under a name changes the value of the name, or adds it at the end. -/
theorem putNamed_map {ns : List Text} (h : ns.Nodup) (g : Text → Value) (n : Text) (v : Value) :
    Field.putNamed (ns.map fun m => (m, g m)) n v
      = (if n ∈ ns then ns else ns ++ [n]).map fun m => (m, if n = m then v else g m) := by
  induction ns with
  | nil => simp [Field.putNamed]
  | cons k ns ih =>
    rw [List.nodup_cons] at h
    rw [List.map_cons, Field.putNamed]
    by_cases hk : k = n
    · subst hk
      rw [if_pos rfl, if_pos List.mem_cons_self, List.map_cons, if_pos rfl]
      refine congrArg _ (List.map_congr_left fun m hm => ?_)
      have hne : k ≠ m := fun he => h.1 (he ▸ hm)
      rw [if_neg hne]
    · rw [if_neg hk, ih h.2]
      have hmem : n ∈ k :: ns ↔ n ∈ ns := by simp [Ne.symm hk]
      simp only [hmem]
      split
      · rw [List.map_cons, if_neg (Ne.symm hk)]
      · rw [List.cons_append, List.map_cons, if_neg (Ne.symm hk)]

/-- Putting entries one after the other keeps the last value of each name. -/
theorem foldl_putNamed (es : List (Text × Value)) :
    es.foldl (fun done e => Field.putNamed done e.1 e.2) [] = lastOfEach es := by
  induction es using List.reverseRecOn with
  | nil => rfl
  | append_singleton es e ih =>
    obtain ⟨n, v⟩ := e
    have hmem : n ∈ (es.map Prod.fst).eraseDups ↔ n ∈ es.map Prod.fst := List.mem_eraseDups
    rw [List.foldl_append, ih, List.foldl_cons, List.foldl_nil, lastOfEach,
      putNamed_map (nodup_eraseDups _), lastOfEach, List.map_append, List.map_singleton,
      eraseDups_append_singleton]
    simp only [hmem, lastValue_append_singleton]

theorem lastValue_of_mem {es : List (Text × Value)} (h : (es.map Prod.fst).Nodup)
    {e : Text × Value} (he : e ∈ es) : lastValue es e.1 = e.2 := by
  induction es using List.reverseRecOn with
  | nil => cases he
  | append_singleton es f ih =>
    obtain ⟨n, v⟩ := f
    rw [List.map_append, List.nodup_append] at h
    rw [lastValue_append_singleton]
    rcases List.mem_append.mp he with he | he
    · have hne : n ≠ e.1 := fun hn =>
        h.2.2 e.1 (List.mem_map_of_mem he) n (by simp) hn.symm
      rw [if_neg hne, ih h.1 he]
    · obtain rfl := List.mem_singleton.mp he
      rw [if_pos rfl]

theorem lastOfEach_eq_self {es : List (Text × Value)} (h : (es.map Prod.fst).Nodup) :
    lastOfEach es = es := by
  rw [lastOfEach, eraseDups_eq_self h, List.map_map]
  conv_rhs => rw [← List.map_id es]
  refine List.map_congr_left fun e he => ?_
  show (e.1, lastValue es e.1) = e
  rw [lastValue_of_mem h he]

theorem nodup_names_lastOfEach (es : List (Text × Value)) :
    ((lastOfEach es).map Prod.fst).Nodup := by
  have hnames : (lastOfEach es).map Prod.fst = (es.map Prod.fst).eraseDups := by
    rw [lastOfEach, List.map_map]
    exact List.map_id _
  rw [hnames]
  exact nodup_eraseDups _

/-! ## Mappings with names for keys -/

theorem put_named (es : List (Text × Value)) (n : Text) (v : Value) :
    Value.put (namedEntries es) (.text n) v = namedEntries (Field.putNamed es n v) := by
  induction es with
  | nil => rfl
  | cons e es ih =>
    obtain ⟨m, w⟩ := e
    show (if Value.sameKey (.text m) (.text n) then _ else _)
      = namedEntries (if m = n then _ else _)
    simp only [Value.sameKey_text_iff, Value.text.injEq]
    split
    · rfl
    · exact congrArg _ ih

/-- The mapping of named entries has the last value of each name. -/
theorem dictOf_named (es : List (Text × Value)) :
    Value.dictOf (namedEntries es) = .dict (namedEntries (lastOfEach es)) := by
  rw [Value.dictOf, ← foldl_putNamed, namedEntries, List.foldl_map]
  have h (done : List (Text × Value)) :
      es.foldl (fun d e => Value.put d (.text e.1) e.2) (namedEntries done)
        = namedEntries (es.foldl (fun d e => Field.putNamed d e.1 e.2) done) := by
    induction es generalizing done with
    | nil => rfl
    | cons e es ih =>
      rw [List.foldl_cons, put_named, ih, List.foldl_cons]
  exact congrArg _ (h [])

/-! ## Canonical forms -/

namespace Value

def keyName : Value → Text
  | text t => Utf16.joinSurrogates t
  | int n => Text.ofInt n
  | float x => x.text
  | bool b => Text.ofString (if b then "true" else "false")
  | null => "null"
  | _ => []

mutual

/-- What a value is after it has been written and read. -/
def canonical : Value → Value
  | text t => text (Utf16.joinSurrogates t)
  | list items => list (canonicalItems items)
  | tuple items => list (canonicalItems items)
  | dict entries => dict (namedEntries (lastOfEach (canonicalEntries entries)))
  | v => v

/-- What items are after they have been written and read. -/
def canonicalItems : List Value → List Value
  | [] => []
  | v :: rest => canonical v :: canonicalItems rest

/-- The names and values of entries after they have been written and read. -/
def canonicalEntries : List (Value × Value) → List (Text × Value)
  | [] => []
  | (k, v) :: rest => (keyName k, canonical v) :: canonicalEntries rest

end

/-- A key is a text in which no surrogates can be joined. -/
def IsPlainKey : Value → Prop
  | text t => t.Unpaired
  | _ => False

mutual

/-- All keys are distinct texts, all sequences are lists, and there are no surrogates to join. -/
def Plain : Value → Prop
  | text t => t.Unpaired
  | list items => PlainItems items
  | tuple _ => False
  | dict entries => (entries.map Prod.fst).Nodup ∧ PlainEntries entries
  | _ => True

def PlainItems : List Value → Prop
  | [] => True
  | v :: rest => Plain v ∧ PlainItems rest

def PlainEntries : List (Value × Value) → Prop
  | [] => True
  | (k, v) :: rest => IsPlainKey k ∧ Plain v ∧ PlainEntries rest

end

theorem text_keyName {k : Value} (h : IsPlainKey k) : text (keyName k) = k := by
  cases k with
  | text t => exact congrArg _ (Utf16.joinSurrogates_eq_self h)
  | _ => cases h

/-- The names of entries whose canonical names are the keys are as distinct as the keys. -/
theorem nodup_names {es : List (Text × Value)} {entries : List (Value × Value)}
    (h : namedEntries es = entries) (hn : (entries.map Prod.fst).Nodup) :
    (es.map Prod.fst).Nodup := by
  subst h
  rw [namedEntries, List.map_map] at hn
  have : es.map (Prod.fst ∘ fun e : Text × Value => (text e.1, e.2))
      = (es.map Prod.fst).map text := by rw [List.map_map]; rfl
  rw [this] at hn
  exact hn.of_map _

mutual

/-- A plain value is its own canonical form. -/
theorem canonical_eq_self : (v : Value) → Plain v → canonical v = v
  | null, _ => rfl
  | bool _, _ => rfl
  | int _, _ => rfl
  | float _, _ => rfl
  | text t, h => by rw [Plain] at h; rw [canonical, Utf16.joinSurrogates_eq_self h]
  | bytes _, _ => rfl
  | list items, h => by rw [Plain] at h; rw [canonical, canonicalItems_eq_self items h]
  | tuple _, h => by rw [Plain] at h; cases h
  | dict entries, h => by
    rw [Plain] at h
    have he := canonicalEntries_eq_self entries h.2
    rw [canonical, lastOfEach_eq_self (nodup_names he h.1), he]
  | dateTime _, _ => rfl
  | date _, _ => rfl
  | other _, _ => rfl
  | enclosing _, _ => rfl

theorem canonicalItems_eq_self : (items : List Value) → PlainItems items →
    canonicalItems items = items
  | [], _ => by rw [canonicalItems]
  | v :: rest, h => by
    rw [PlainItems] at h
    rw [canonicalItems, canonical_eq_self v h.1, canonicalItems_eq_self rest h.2]

theorem canonicalEntries_eq_self : (entries : List (Value × Value)) → PlainEntries entries →
    namedEntries (canonicalEntries entries) = entries
  | [], _ => by rw [canonicalEntries]; rfl
  | (k, v) :: rest, h => by
    rw [PlainEntries] at h
    rw [canonicalEntries, namedEntries, List.map_cons, text_keyName h.1,
      canonical_eq_self v h.2.1]
    exact congrArg _ (canonicalEntries_eq_self rest h.2.2)

end

end Value

end Registry
