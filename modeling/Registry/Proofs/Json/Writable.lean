import Registry.Proofs.Json.RoundTrip

/-!
# Values that have a document

Numbers that are finite and not too long, texts, truth values and null, and containers of these that
are not nested too deeply, have a document (`writeValue_of_writable`), and every document is
printable ASCII (`writeValue_isPrintable`). Copying such a value takes a number of calls that its
levels bound (`copyCalls_le_of_writable`).
-/

namespace Registry

namespace Value

/-- The key has a text in a document. -/
def IsWritableKey : Value → Prop
  | text _ => True
  | int n => (Nat.toDigits 10 n.natAbs).length ≤ Json.integerDigitLimit
  | float x => x.isFinite = true
  | bool _ => True
  | null => True
  | _ => False

mutual

/-- The value has a document with at most `levels` levels of containers. -/
def Writable (levels : Nat) : Value → Prop
  | null => True
  | bool _ => True
  | int n => (Nat.toDigits 10 n.natAbs).length ≤ Json.integerDigitLimit
  | float x => x.isFinite = true
  | text _ => True
  | list items => 0 < levels ∧ WritableItems (levels - 1) items
  | tuple items => 0 < levels ∧ WritableItems (levels - 1) items
  | dict entries => 0 < levels ∧ WritableEntries (levels - 1) entries
  | _ => False

def WritableItems (levels : Nat) : List Value → Prop
  | [] => True
  | v :: rest => Writable levels v ∧ WritableItems levels rest

/-- All keys and values of entries have documents. -/
def WritableEntries (levels : Nat) : List (Value × Value) → Prop
  | [] => True
  | (k, v) :: rest => IsWritableKey k ∧ Writable levels v ∧ WritableEntries levels rest

end

end Value

namespace Json

theorem writeInt_of_length_le {n : Int}
    (h : (Nat.toDigits 10 n.natAbs).length ≤ integerDigitLimit) :
    writeInt n = .ok (Text.ofInt n) := by
  rw [writeInt, if_neg (Nat.not_lt.mpr h)]

theorem writeBinary64_of_isFinite {x : Binary64} (h : x.isFinite = true) :
    writeBinary64 x = .ok x.text := by
  rw [writeBinary64, if_pos h]

theorem keyText_of_writable {k : Value} (h : k.IsWritableKey) : ∃ key, keyText k = .ok key := by
  cases k with
  | text t => exact ⟨t, rfl⟩
  | int n => exact ⟨_, writeInt_of_length_le h⟩
  | float x => exact ⟨_, writeBinary64_of_isFinite h⟩
  | bool b => exact ⟨_, rfl⟩
  | null => exact ⟨_, rfl⟩
  | _ => cases h

mutual

/-- A writable value has a document where at least as many levels are allowed. -/
theorem writeValue_of_writable : (v : Value) → ∀ {levels depth : Nat}, v.Writable levels →
    levels ≤ depth → ∃ t, writeValue depth v = .ok t
  | .null, _, _, _, _ => ⟨_, rfl⟩
  | .bool _, _, _, _, _ => ⟨_, rfl⟩
  | .int n, _, _, h, _ => by
    rw [Value.Writable] at h
    exact ⟨_, writeInt_of_length_le h⟩
  | .float x, _, _, h, _ => by
    rw [Value.Writable] at h
    exact ⟨_, writeBinary64_of_isFinite h⟩
  | .text _, _, _, _, _ => ⟨_, rfl⟩
  | .list items, levels, depth, h, hd => by
    rw [Value.Writable] at h
    obtain ⟨ps, hps⟩ := writeItems_of_writable items h.2 (show levels - 1 ≤ depth - 1 by omega)
    rw [writeValue, if_neg (by omega), hps]
    exact ⟨_, rfl⟩
  | .tuple items, levels, depth, h, hd => by
    rw [Value.Writable] at h
    obtain ⟨ps, hps⟩ := writeItems_of_writable items h.2 (show levels - 1 ≤ depth - 1 by omega)
    rw [writeValue, if_neg (by omega), hps]
    exact ⟨_, rfl⟩
  | .dict entries, levels, depth, h, hd => by
    rw [Value.Writable] at h
    obtain ⟨ps, hps⟩ := writeEntries_of_writable entries h.2 (show levels - 1 ≤ depth - 1 by omega)
    rw [writeValue, if_neg (by omega), hps]
    exact ⟨_, rfl⟩
  | .bytes _, _, _, h, _ => False.elim h
  | .dateTime _, _, _, h, _ => False.elim h
  | .date _, _, _, h, _ => False.elim h
  | .other _, _, _, h, _ => False.elim h
  | .enclosing _, _, _, h, _ => False.elim h

theorem writeItems_of_writable : (items : List Value) → ∀ {levels depth : Nat},
    Value.WritableItems levels items → levels ≤ depth → ∃ ps, writeItems depth items = .ok ps
  | [], _, _, _, _ => ⟨_, rfl⟩
  | v :: rest, _, _, h, hd => by
    rw [Value.WritableItems] at h
    obtain ⟨t, ht⟩ := writeValue_of_writable v h.1 hd
    obtain ⟨ps, hps⟩ := writeItems_of_writable rest h.2 hd
    rw [writeItems, ht, hps]
    exact ⟨_, rfl⟩

theorem writeEntries_of_writable : (entries : List (Value × Value)) → ∀ {levels depth : Nat},
    Value.WritableEntries levels entries → levels ≤ depth →
      ∃ ps, writeEntries depth entries = .ok ps
  | [], _, _, _, _ => ⟨_, rfl⟩
  | (k, v) :: rest, _, _, h, hd => by
    rw [Value.WritableEntries] at h
    obtain ⟨key, hkey⟩ := keyText_of_writable h.1
    obtain ⟨t, ht⟩ := writeValue_of_writable v h.2.1 hd
    obtain ⟨ps, hps⟩ := writeEntries_of_writable rest h.2.2 hd
    rw [writeEntries, hkey, ht, hps]
    exact ⟨_, rfl⟩

end

/-! ## Copies -/

theorem copyCalls_of_writableKey {k : Value} (h : k.IsWritableKey) : k.copyCalls = 2 := by
  cases k with
  | null | bool _ | int _ | float _ | text _ => rfl
  | _ => cases h

mutual

/-- Copying a value that has a document takes at most three calls for each level. -/
theorem copyCalls_le_of_writable : (v : Value) → ∀ {levels : Nat}, v.Writable levels →
    v.copyCalls ≤ 3 * levels + 2
  | .list items, levels, h => by
    rw [Value.Writable] at h
    have hitems := copyCallsOfItems_le_of_writable items h.2
    rw [Value.copyCalls]
    omega
  | .tuple items, levels, h => by
    rw [Value.Writable] at h
    have hitems := copyCallsOfItems_le_of_writable items h.2
    rw [Value.copyCalls]
    omega
  | .dict entries, levels, h => by
    rw [Value.Writable] at h
    have hentries := copyCallsOfEntries_le_of_writable entries h.2
    rw [Value.copyCalls]
    omega
  | .null, _, _ | .bool _, _, _ | .int _, _, _ | .float _, _, _ | .text _, _, _ | .bytes _, _, _
  | .dateTime _, _, _ | .date _, _, _ | .other _, _, _ | .enclosing _, _, _ => Nat.le_add_left _ _

theorem copyCallsOfItems_le_of_writable : (items : List Value) → ∀ {levels : Nat},
    Value.WritableItems levels items → Value.copyCallsOfItems items ≤ 3 * levels + 2
  | [], _, _ => Nat.zero_le _
  | v :: rest, _, h => by
    rw [Value.WritableItems] at h
    exact Nat.max_le.mpr ⟨copyCalls_le_of_writable v h.1, copyCallsOfItems_le_of_writable rest h.2⟩

theorem copyCallsOfEntries_le_of_writable : (entries : List (Value × Value)) → ∀ {levels : Nat},
    Value.WritableEntries levels entries → Value.copyCallsOfEntries entries ≤ 3 * levels + 2
  | [], _, _ => Nat.zero_le _
  | (k, v) :: rest, levels, h => by
    rw [Value.WritableEntries] at h
    have hkey : k.copyCalls ≤ 3 * levels + 2 :=
      (copyCalls_of_writableKey h.1).le.trans (Nat.le_add_left 2 _)
    exact Nat.max_le.mpr ⟨Nat.max_le.mpr ⟨hkey, copyCalls_le_of_writable v h.2.1⟩,
      copyCallsOfEntries_le_of_writable rest h.2.2⟩

end

/-- Lists inside each other that have a document and cannot be copied. -/
example :
    let v := Nat.repeat (fun v => Value.list [v]) 480 .null
    (write v).isOk = true ∧ callsLeft < v.copyCalls := by
  decide +kernel

/-! ## Documents are printable -/

theorem commaSeparated_isPrintable {ps : List Text} (h : ∀ p ∈ ps, Text.IsPrintable p) :
    Text.IsPrintable (commaSeparated ps) := by
  induction ps with
  | nil => exact fun c hc => absurd hc List.not_mem_nil
  | cons p ps ih =>
    have hp := h p (by simp)
    have ih := ih fun q hq => h q (List.mem_cons_of_mem p hq)
    cases ps with
    | nil => rwa [commaSeparated_singleton]
    | cons q ps =>
      rw [commaSeparated_cons_cons]
      exact hp.append (Text.IsPrintable.append (by decide) ih)

theorem bracketed_isPrintable {ps : List Text} (h : ∀ p ∈ ps, Text.IsPrintable p) :
    Text.IsPrintable (bracketed ps) :=
  (Text.IsPrintable.append (by decide) (commaSeparated_isPrintable h)).append (by decide)

theorem braced_isPrintable {ps : List Text} (h : ∀ p ∈ ps, Text.IsPrintable p) :
    Text.IsPrintable (braced ps) :=
  (Text.IsPrintable.append (by decide) (commaSeparated_isPrintable h)).append (by decide)

mutual

/-- Every document is printable ASCII. -/
theorem writeValue_isPrintable : (v : Value) → ∀ {depth : Nat} {t : Text},
    writeValue depth v = .ok t → Text.IsPrintable t
  | .null, _, _, h => by cases h; decide
  | .bool b, _, _, h => by cases h; cases b <;> decide
  | .int n, _, _, h => by
    rw [writeValue] at h
    rw [(writeInt_eq_ok h).2]
    exact Text.ofInt_isPrintable n
  | .float x, _, _, h => by
    rw [writeValue] at h
    rw [(writeBinary64_eq_ok h).2]
    exact Text.binary64Text_isPrintable x
  | .text s, _, _, h => by
    cases h
    exact writeString_isPrintable s
  | .list items, _, _, h => by
    rw [writeValue] at h
    obtain ⟨-, ps, hps, rfl⟩ := writeContainer_eq_ok h
    exact bracketed_isPrintable (writeItems_isPrintable items hps)
  | .tuple items, _, _, h => by
    rw [writeValue] at h
    obtain ⟨-, ps, hps, rfl⟩ := writeContainer_eq_ok h
    exact bracketed_isPrintable (writeItems_isPrintable items hps)
  | .dict entries, _, _, h => by
    rw [writeValue] at h
    obtain ⟨-, ps, hps, rfl⟩ := writeContainer_eq_ok h
    exact braced_isPrintable (writeEntries_isPrintable entries hps)
  | .bytes _, _, _, h => by rw [writeValue] at h; cases h
  | .dateTime _, _, _, h => by rw [writeValue] at h; cases h
  | .date _, _, _, h => by rw [writeValue] at h; cases h
  | .other _, _, _, h => by rw [writeValue] at h; cases h
  | .enclosing _, _, _, h => by rw [writeValue] at h; cases h

theorem writeItems_isPrintable : (items : List Value) → ∀ {depth : Nat} {ps : List Text},
    writeItems depth items = .ok ps → ∀ p ∈ ps, Text.IsPrintable p
  | [], _, _, h => by
    cases h
    exact fun p hp => absurd hp List.not_mem_nil
  | v :: rest, _, _, h => by
    obtain ⟨t, ts, ht, hts, rfl⟩ := writeItems_cons_eq_ok h
    exact List.forall_mem_cons.mpr ⟨writeValue_isPrintable v ht, writeItems_isPrintable rest hts⟩

theorem writeEntries_isPrintable :
    (entries : List (Value × Value)) → ∀ {depth : Nat} {ps : List Text},
    writeEntries depth entries = .ok ps → ∀ p ∈ ps, Text.IsPrintable p
  | [], _, _, h => by
    cases h
    exact fun p hp => absurd hp List.not_mem_nil
  | (k, v) :: rest, _, _, h => by
    obtain ⟨key, t, ts, -, ht, hts, rfl⟩ := writeEntries_cons_eq_ok h
    refine List.forall_mem_cons.mpr ⟨?_, writeEntries_isPrintable rest hts⟩
    exact ((writeString_isPrintable key).append (by decide)).append (writeValue_isPrintable v ht)

end

end Json

end Registry
