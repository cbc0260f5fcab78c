import Registry.Proofs.Json.RoundTrip

/-!
# Documents written again

What a document is read as, written again, gives the document (`writeValue_canonical`): joined
surrogates have the escapes of the pair that they were, a key and its name have one text, and the
entries of an object are kept as they are, if no two of its keys have one text (`DistinctKeys`).
-/

namespace Registry

namespace Json

/-! ## Strings and keys -/

/-- Joined surrogates are escaped as the pair. -/
theorem escapePoint_ofSurrogates {a b : CodePoint} (ha : a.isHighSurrogate = true)
    (hb : b.isLowSurrogate = true) :
    escapePoint (CodePoint.ofSurrogates a b) = escapePoint a ++ escapePoint b := by
  have hna := isNumbered_of_isSurrogate (isSurrogate_of_isHighSurrogate ha)
  have hnb := isNumbered_of_isSurrogate (isSurrogate_of_isLowSurrogate hb)
  simp only [CodePoint.isHighSurrogate, CodePoint.isLowSurrogate, Bool.and_eq_true,
    decide_eq_true_eq] at ha hb
  have hval : (CodePoint.ofSurrogates a b).val
      = 0x10000 + (a.val - 0xD800) * 0x400 + (b.val - 0xDC00) :=
    CodePoint.val_ofNat (by omega)
  have hhigh : (highHalf (CodePoint.ofSurrogates a b)).val = a.val := by
    rw [highHalf_val (by omega)]
    omega
  have hlow : (lowHalf (CodePoint.ofSurrogates a b)).val = b.val := by
    rw [lowHalf_val]
    omega
  have hjoined := escapePoint_of_isNumbered (c := CodePoint.ofSurrogates a b)
    (isNumbered_of_lt (by omega))
  rw [if_neg (by omega), hhigh, hlow] at hjoined
  rw [hjoined, escapePoint_of_isNumbered hna, escapePoint_of_isNumbered hnb, if_pos (by omega),
    if_pos (by omega)]

theorem flatMap_escapePoint_joinSurrogates : (t : Text) →
    (Utf16.joinSurrogates t).flatMap escapePoint = t.flatMap escapePoint
  | [] => rfl
  | [_] => rfl
  | a :: b :: rest => by
    rw [Utf16.joinSurrogates]
    split
    · next h =>
      rw [Bool.and_eq_true] at h
      rw [List.flatMap_cons, List.flatMap_cons, List.flatMap_cons, escapePoint_ofSurrogates h.1 h.2,
        flatMap_escapePoint_joinSurrogates rest, List.append_assoc]
    · rw [List.flatMap_cons, List.flatMap_cons, flatMap_escapePoint_joinSurrogates (b :: rest)]

theorem writeString_joinSurrogates (t : Text) :
    writeString (Utf16.joinSurrogates t) = writeString t := by
  rw [writeString, writeString, flatMap_escapePoint_joinSurrogates]

/-- A key is written as its name. -/
theorem writeString_keyName {k : Value} {key : Text} (h : keyText k = .ok key) :
    writeString k.keyName = writeString key := by
  rw [← joinSurrogates_keyText h, writeString_joinSurrogates]

end Json

/-! ## Distinct keys -/

/-- The text of a key in a document, or why it has none. -/
def Json.keyDocument (k : Value) : Except Json.Offence Text := (Json.keyText k).map Json.writeString

namespace Value

mutual

/-- No mapping in the value has two keys with one text in a document. -/
def DistinctKeys : Value → Prop
  | list items => DistinctKeysItems items
  | tuple items => DistinctKeysItems items
  | dict entries => (entries.map fun e => Json.keyDocument e.1).Nodup ∧ DistinctKeysEntries entries
  | _ => True

/-- No mapping in the items has two keys with one text. -/
def DistinctKeysItems : List Value → Prop
  | [] => True
  | v :: rest => DistinctKeys v ∧ DistinctKeysItems rest

/-- No mapping in the values of the entries has two keys with one text. -/
def DistinctKeysEntries : List (Value × Value) → Prop
  | [] => True
  | (_, v) :: rest => DistinctKeys v ∧ DistinctKeysEntries rest

end

theorem map_fst_canonicalEntries (entries : List (Value × Value)) :
    (canonicalEntries entries).map Prod.fst = entries.map fun e => e.1.keyName := by
  induction entries with
  | nil => rfl
  | cons e rest ih =>
    obtain ⟨k, v⟩ := e
    rw [canonicalEntries, List.map_cons, ih, List.map_cons]

end Value

namespace Json

theorem exists_keyText_of_writeEntries {depth : Nat} {entries : List (Value × Value)}
    {ps : List Text} (h : writeEntries depth entries = .ok ps) :
    ∀ e ∈ entries, ∃ key, keyText e.1 = .ok key := by
  induction entries generalizing ps with
  | nil => exact fun e he => absurd he List.not_mem_nil
  | cons e rest ih =>
    obtain ⟨key, t, ts, hk, -, hts, -⟩ := writeEntries_cons_eq_ok h
    exact List.forall_mem_cons.mpr ⟨⟨key, hk⟩, ih hts⟩

/-- Keys with distinct texts have distinct names. -/
theorem nodup_names_canonicalEntries {depth : Nat} {entries : List (Value × Value)}
    {ps : List Text} (h : writeEntries depth entries = .ok ps)
    (hd : (entries.map fun e => keyDocument e.1).Nodup) :
    ((Value.canonicalEntries entries).map Prod.fst).Nodup := by
  have htexts : (entries.map fun e => keyDocument e.1)
      = (entries.map fun e => e.1.keyName).map fun name => .ok (writeString name) := by
    rw [List.map_map]
    refine List.map_congr_left fun e he => ?_
    obtain ⟨key, hk⟩ := exists_keyText_of_writeEntries h e he
    show (keyText e.1).map writeString = .ok (writeString e.1.keyName)
    rw [writeString_keyName hk, hk]
    rfl
  rw [htexts] at hd
  rw [Value.map_fst_canonicalEntries]
  exact hd.of_map _

/-! ## Documents -/

mutual

/-- What is written of a value is written of its canonical form. -/
theorem writeValue_canonical : (v : Value) → ∀ {depth : Nat} {t : Text},
    writeValue depth v = .ok t → v.DistinctKeys → writeValue depth v.canonical = .ok t
  | .null, _, _, h, _ => h
  | .bool _, _, _, h, _ => h
  | .int _, _, _, h, _ => h
  | .float _, _, _, h, _ => h
  | .text s, depth, t, h, _ => by
    cases h
    rw [Value.canonical, writeValue, writeString_joinSurrogates]
  | .list items, depth, t, h, hkeys => by
    rw [writeValue] at h
    rw [Value.DistinctKeys] at hkeys
    obtain ⟨hd, ps, hps, rfl⟩ := writeContainer_eq_ok h
    rw [Value.canonical, writeValue, if_neg (Nat.ne_of_gt hd), writeItems_canonical items hps hkeys]
    rfl
  | .tuple items, depth, t, h, hkeys => by
    rw [writeValue] at h
    rw [Value.DistinctKeys] at hkeys
    obtain ⟨hd, ps, hps, rfl⟩ := writeContainer_eq_ok h
    rw [Value.canonical, writeValue, if_neg (Nat.ne_of_gt hd), writeItems_canonical items hps hkeys]
    rfl
  | .dict entries, depth, t, h, hkeys => by
    rw [writeValue] at h
    rw [Value.DistinctKeys] at hkeys
    obtain ⟨hd, ps, hps, rfl⟩ := writeContainer_eq_ok h
    rw [Value.canonical, lastOfEach_eq_self (nodup_names_canonicalEntries hps hkeys.1), writeValue,
      if_neg (Nat.ne_of_gt hd), writeEntries_canonical entries hps hkeys.2]
    rfl
  | .bytes _, _, _, h, _ => h
  | .dateTime _, _, _, h, _ => h
  | .date _, _, _, h, _ => h
  | .other _, _, _, h, _ => h
  | .enclosing _, _, _, h, _ => h

theorem writeItems_canonical : (items : List Value) → ∀ {depth : Nat} {ps : List Text},
    writeItems depth items = .ok ps → Value.DistinctKeysItems items →
      writeItems depth (Value.canonicalItems items) = .ok ps
  | [], _, _, h, _ => h
  | v :: rest, depth, ps, h, hkeys => by
    rw [Value.DistinctKeysItems] at hkeys
    obtain ⟨t, ts, ht, hts, rfl⟩ := writeItems_cons_eq_ok h
    rw [Value.canonicalItems, writeItems, writeValue_canonical v ht hkeys.1,
      writeItems_canonical rest hts hkeys.2]
    rfl

theorem writeEntries_canonical : (entries : List (Value × Value)) → ∀ {depth : Nat}
    {ps : List Text}, writeEntries depth entries = .ok ps → Value.DistinctKeysEntries entries →
      writeEntries depth (namedEntries (Value.canonicalEntries entries)) = .ok ps
  | [], _, _, h, _ => h
  | (k, v) :: rest, depth, ps, h, hkeys => by
    rw [Value.DistinctKeysEntries] at hkeys
    obtain ⟨key, t, ts, hk, ht, hts, rfl⟩ := writeEntries_cons_eq_ok h
    have hrest : writeEntries depth (namedEntries (Value.canonicalEntries rest)) = .ok ts :=
      writeEntries_canonical rest hts hkeys.2
    unfold namedEntries at hrest ⊢
    rw [Value.canonicalEntries, List.map_cons, writeEntries, keyText]
    simp only [writeValue_canonical v ht hkeys.1, hrest, writeString_keyName hk]
    rfl

end

end Json

end Registry
