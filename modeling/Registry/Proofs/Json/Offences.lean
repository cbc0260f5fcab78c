import Registry.Proofs.Json.Writable

/-!
# What keeps a value from being written

A value is looked at part by part in document order (`occurrences`): a container comes before what
it holds and a key before its value. Each part has an offence of its own or none
(`Occurrence.offence?`), whatever stands around it. Writing stops at the first of all these offences
and succeeds if there is none (`writeValue_stopsAtFirst`), as long as containers are not nested too
deeply and integers are not too long.
-/

namespace Registry

/-! ## Levels -/

namespace Value

mutual

/-- How many containers stand in one another at most. Keys hold none that count. -/
def levels : Value → Nat
  | list items => levelsOfItems items + 1
  | tuple items => levelsOfItems items + 1
  | dict entries => levelsOfEntries entries + 1
  | _ => 0

def levelsOfItems : List Value → Nat
  | [] => 0
  | v :: rest => max v.levels (levelsOfItems rest)

/-- The greatest number of levels of a value in entries. -/
def levelsOfEntries : List (Value × Value) → Nat
  | [] => 0
  | (_, v) :: rest => max v.levels (levelsOfEntries rest)

end

def hasDocumentKind : Value → Bool
  | null | bool _ | int _ | float _ | text _ | list _ | tuple _ | dict _ => true
  | _ => false

/-- The value is of a kind that stands for a name in a document. -/
def hasNameKind : Value → Bool
  | null | bool _ | int _ | float _ | text _ => true
  | _ => false

end Value

namespace Json

/-! ## Parts in document order -/

/-- A part of a value: a key of a mapping, or a value. -/
inductive Occurrence
  | key (k : Value)
  | value (v : Value)

mutual

/-- The parts of a value in document order. -/
def occurrences : Value → List Occurrence
  | .list items => .value (.list items) :: itemOccurrences items
  | .tuple items => .value (.tuple items) :: itemOccurrences items
  | .dict entries => .value (.dict entries) :: entryOccurrences entries
  | v => [.value v]

/-- The parts of items in document order. -/
def itemOccurrences : List Value → List Occurrence
  | [] => []
  | v :: rest => occurrences v ++ itemOccurrences rest

/-- The parts of entries in document order, a key before its value. -/
def entryOccurrences : List (Value × Value) → List Occurrence
  | [] => []
  | (k, v) :: rest => .key k :: (occurrences v ++ entryOccurrences rest)

end

namespace Occurrence

/-- An integer of the part has no more digits than a document takes. -/
def IsShort : Occurrence → Prop
  | key (.int n) | value (.int n) => (Nat.toDigits 10 n.natAbs).length ≤ integerDigitLimit
  | _ => True

/-- The offence that a part is: a number that is not finite, a reference to a container around it, a
key that stands for no name, or a value of a kind that documents do not have. -/
def offence? : Occurrence → Option Offence
  | key (.float x) | value (.float x) => if x.isFinite then none else some .outOfRange
  | value (.enclosing _) => some .circular
  | key k => if k.hasNameKind then none else some (.key k.qualifiedKindName)
  | value v => if v.hasDocumentKind then none else some (.kind v.kindName)

/-- No part by itself is nested too deeply. -/
theorem offence?_ne_nesting (o : Occurrence) : o.offence? ≠ some .nesting := by
  cases o with
  | key k => cases k <;> simp [offence?, Value.hasNameKind]
  | value v => cases v <;> simp [offence?, Value.hasDocumentKind]

end Occurrence

/-- The offences of a value in document order. -/
def offences (v : Value) : List Offence := (occurrences v).filterMap Occurrence.offence?

theorem filterMap_offence?_cons (o : Occurrence) (os : List Occurrence) :
    (o :: os).filterMap Occurrence.offence?
      = o.offence?.toList ++ os.filterMap Occurrence.offence? := by
  rw [List.filterMap_cons]
  cases o.offence? <;> rfl

/-! ## Stopping at the first offence -/

section

variable {α β : Type} {outcome : Except Offence α} {os os' : List Offence}

/-- The outcome of steps that meet some offences: it is the first of them, or a success if there is
none. -/
def StopsAtFirst (outcome : Except Offence α) : List Offence → Prop
  | [] => ∃ a, outcome = .ok a
  | o :: _ => outcome = .error o

theorem StopsAtFirst.map (h : StopsAtFirst outcome os) (f : α → β) :
    StopsAtFirst (outcome.map f) os := by
  cases os with
  | nil =>
    obtain ⟨a, rfl⟩ := h
    exact ⟨f a, rfl⟩
  | cons o os => exact map_eq_error.mpr h

/-- What follows a step meets its own offences if the step meets none. -/
theorem StopsAtFirst.append {next : Except Offence β} (h : StopsAtFirst outcome os)
    (herror : ∀ e, outcome = .error e → next = .error e)
    (hok : ∀ a, outcome = .ok a → StopsAtFirst next os') : StopsAtFirst next (os ++ os') := by
  cases os with
  | nil =>
    obtain ⟨a, ha⟩ := h
    exact hok a ha
  | cons o os => exact herror o h

end

theorem writeBinary64_stopsAtFirst (x : Binary64) :
    StopsAtFirst (writeBinary64 x)
      (if x.isFinite then none else some Offence.outOfRange).toList := by
  unfold writeBinary64
  by_cases hx : x.isFinite = true
  · rw [if_pos hx, if_pos hx]
    exact ⟨_, rfl⟩
  · rw [if_neg hx, if_neg hx]
    exact rfl

theorem keyText_stopsAtFirst (k : Value) (hshort : (Occurrence.key k).IsShort) :
    StopsAtFirst (keyText k) (Occurrence.key k).offence?.toList := by
  cases k with
  | int n => exact ⟨_, writeInt_of_length_le hshort⟩
  | float x => exact writeBinary64_stopsAtFirst x
  | null | bool _ | text _ => exact ⟨_, rfl⟩
  | _ => exact rfl

mutual

/-- Writing a value stops at the first of its offences. -/
theorem writeValue_stopsAtFirst : (v : Value) → ∀ {depth : Nat}, v.levels ≤ depth →
    (∀ o ∈ occurrences v, o.IsShort) → StopsAtFirst (writeValue depth v) (offences v)
  | .null, _, _, _ => ⟨_, rfl⟩
  | .bool _, _, _, _ => ⟨_, rfl⟩
  | .int n, _, _, hshort => ⟨_, writeInt_of_length_le (hshort _ List.mem_cons_self)⟩
  | .float x, _, _, _ => by
    show StopsAtFirst (writeBinary64 x) ([.value (.float x)].filterMap Occurrence.offence?)
    rw [filterMap_offence?_cons, List.filterMap_nil, List.append_nil]
    exact writeBinary64_stopsAtFirst x
  | .text _, _, _, _ => ⟨_, rfl⟩
  | .list items, depth, hlevels, hshort => by
    rw [Value.levels] at hlevels
    rw [writeValue, if_neg (by omega)]
    exact (writeItems_stopsAtFirst items (by omega) fun o ho =>
      hshort o (List.mem_cons_of_mem _ ho)).map bracketed
  | .tuple items, depth, hlevels, hshort => by
    rw [Value.levels] at hlevels
    rw [writeValue, if_neg (by omega)]
    exact (writeItems_stopsAtFirst items (by omega) fun o ho =>
      hshort o (List.mem_cons_of_mem _ ho)).map bracketed
  | .dict entries, depth, hlevels, hshort => by
    rw [Value.levels] at hlevels
    rw [writeValue, if_neg (by omega)]
    exact (writeEntries_stopsAtFirst entries (by omega) fun o ho =>
      hshort o (List.mem_cons_of_mem _ ho)).map braced
  | .bytes _, _, _, _ => rfl
  | .dateTime _, _, _, _ => rfl
  | .date _, _, _, _ => rfl
  | .other _, _, _, _ => rfl
  | .enclosing _, _, _, _ => rfl

theorem writeItems_stopsAtFirst : (items : List Value) → ∀ {depth : Nat},
    Value.levelsOfItems items ≤ depth → (∀ o ∈ itemOccurrences items, o.IsShort) →
      StopsAtFirst (writeItems depth items) ((itemOccurrences items).filterMap Occurrence.offence?)
  | [], _, _, _ => ⟨_, rfl⟩
  | v :: rest, depth, hlevels, hshort => by
    rw [Value.levelsOfItems] at hlevels
    rw [itemOccurrences, List.forall_mem_append] at hshort
    rw [writeItems, itemOccurrences, List.filterMap_append]
    have hvalue := writeValue_stopsAtFirst v (show v.levels ≤ depth by omega) hshort.1
    have hrest := writeItems_stopsAtFirst rest (show Value.levelsOfItems rest ≤ depth by omega)
      hshort.2
    refine hvalue.append (fun e he => by rw [he]) fun t ht => ?_
    rw [ht]
    exact hrest.map (t :: ·)

theorem writeEntries_stopsAtFirst : (entries : List (Value × Value)) → ∀ {depth : Nat},
    Value.levelsOfEntries entries ≤ depth → (∀ o ∈ entryOccurrences entries, o.IsShort) →
      StopsAtFirst (writeEntries depth entries)
        ((entryOccurrences entries).filterMap Occurrence.offence?)
  | [], _, _, _ => ⟨_, rfl⟩
  | (k, v) :: rest, depth, hlevels, hshort => by
    rw [Value.levelsOfEntries] at hlevels
    rw [entryOccurrences, List.forall_mem_cons, List.forall_mem_append] at hshort
    have hvalue := writeValue_stopsAtFirst v (show v.levels ≤ depth by omega) hshort.2.1
    have hrest := writeEntries_stopsAtFirst rest (show Value.levelsOfEntries rest ≤ depth by omega)
      hshort.2.2
    rw [writeEntries, entryOccurrences, filterMap_offence?_cons, List.filterMap_append]
    refine (keyText_stopsAtFirst k hshort.1).append (fun e he => by rw [he]) fun key hkey => ?_
    rw [hkey]
    refine hvalue.append (fun e he => by rw [he]) fun t ht => ?_
    rw [ht]
    exact hrest.map _

end

end Json

end Registry
