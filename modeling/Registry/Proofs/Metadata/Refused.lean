import Registry.Proofs.Json.Offences
import Registry.Proofs.Metadata

/-!
# Metadata that are refused

`encode` refuses what has an offence in it, and says which is the first in document order
(`encode_stopsAtFirst`). Nothing else keeps a value from being written, and what is written is
printable ASCII.
-/

namespace Registry.Metadata

theorem encode_eq_error_iff {v : Value} {o : Json.Offence} :
    encode v = .error (.unwritable o)
      ↔ Json.writeValue Json.nestingLimit v = .error o := by
  unfold encode Json.write
  cases Json.writeValue Json.nestingLimit v with
  | ok t => exact ⟨nofun, nofun⟩
  | error e => simp [mapError_error]

/-- Every offence is reported as one of metadata. -/
theorem not_isNesting_of_mem_offences {v : Value} {o : Json.Offence} (h : o ∈ Json.offences v) :
    (MetadataError.unwritable o).isNesting = false := by
  obtain ⟨part, -, hpart⟩ := List.mem_filterMap.mp h
  cases o with
  | nesting => exact absurd hpart part.offence?_ne_nesting
  | _ => rfl

/-- A value with at most 200 levels of containers and integers that are not too long is written
exactly if there is no offence in it. It is refused with the wording of the first offence, and what
is written is printable ASCII. -/
theorem encode_stopsAtFirst {v : Value} (hlevels : v.levels ≤ 200)
    (hshort : ∀ o ∈ Json.occurrences v, o.IsShort) :
    ((∃ t, encode v = .ok t) ↔ Json.offences v = [])
      ∧ (∀ o rest, Json.offences v = o :: rest →
        encode v = .error (.unwritable o) ∧ (MetadataError.unwritable o).isNesting = false
          ∧ (MetadataError.unwritable o).message
            = Text.ofString ("metadata is not JSON serializable: " ++ o.message))
      ∧ ∀ t, encode v = .ok t → t.IsPrintable := by
  have hlimit : v.levels ≤ Json.nestingLimit := hlevels.trans (by decide)
  have hstops := Json.writeValue_stopsAtFirst v hlimit hshort
  have hrefused {o : Json.Offence} {rest : List Json.Offence} (ho : Json.offences v = o :: rest) :
      encode v = .error (.unwritable o) := by
    rw [ho] at hstops
    exact encode_eq_error_iff.mpr hstops
  refine ⟨⟨?_, ?_⟩, ?_, ?_⟩
  · rintro ⟨t, ht⟩
    cases ho : Json.offences v with
    | nil => rfl
    | cons o rest =>
      rw [hrefused ho] at ht
      cases ht
  · intro hnone
    rw [hnone] at hstops
    obtain ⟨t, ht⟩ := hstops
    exact ⟨t, encode_eq_ok_iff.mpr ht⟩
  · intro o rest ho
    refine ⟨hrefused ho, not_isNesting_of_mem_offences (v := v) ?_, rfl⟩
    rw [ho]
    exact List.mem_cons_self
  · intro t ht
    exact Json.writeValue_isPrintable v (encode_eq_ok_iff.mp ht)

/-- Metadata with a pair as a key deep inside, and behind it a number that is not finite and a list
that holds itself. -/
def misshapen : Value :=
  .dict [(.text "a", .list [.int 1, .tuple [.dict [(.tuple [.int 1, .int 2], .bytes [])]]]),
    (.float (.nan 0), .list [.enclosing 0])]

theorem encode_misshapen :
    misshapen.levels = 4
      ∧ Json.offences misshapen = [.key "tuple", .kind "bytes", .outOfRange, .circular]
      ∧ encode misshapen = .error (.unwritable (.key "tuple")) := by
  have hone : (Nat.toDigits 10 1).length ≤ Json.integerDigitLimit := by decide
  have hshort : ∀ o ∈ Json.occurrences misshapen, o.IsShort := by
    simp [misshapen, Json.occurrences, Json.itemOccurrences, Json.entryOccurrences,
      Json.Occurrence.IsShort, hone]
  have hoffences :
      Json.offences misshapen = [.key "tuple", .kind "bytes", .outOfRange, .circular] := rfl
  exact ⟨rfl, hoffences,
    ((encode_stopsAtFirst (v := misshapen) (by decide) hshort).2.1 _ _ hoffences).1⟩

end Registry.Metadata
