import Registry.Metadata
import Registry.Proofs.Json.Rewriting
import Registry.Proofs.Outcome

/-!
# Metadata read back

Metadata are null or a mapping. What `encode` writes of them is ASCII, and `decode` reads it as
their canonical form (`decode_of_encode`), of which `encode` writes the same (`encode_canonical`).
-/

namespace Registry

namespace Value

/-- The values that metadata can be: nothing, or a mapping. -/
def IsMapping : Value → Prop
  | null => True
  | dict _ => True
  | _ => False

theorem IsMapping.canonical {v : Value} (h : v.IsMapping) : v.canonical.IsMapping := by
  cases v with
  | null => exact trivial
  | dict entries => exact trivial
  | _ => cases h

end Value

namespace Metadata

theorem ofDocument_eq_ok {v : Value} (h : v.IsMapping) : ofDocument v = .ok v := by
  cases v with
  | null => rfl
  | dict entries => rfl
  | _ => cases h

theorem encode_eq_ok_iff {v : Value} {t : Text} :
    encode v = .ok t ↔ Json.writeValue Json.nestingLimit v = .ok t :=
  mapError_eq_ok

theorem readAll_of_write {v : Value} {t : Text}
    (h : Json.writeValue Json.nestingLimit v = .ok t) : Json.readAll t = .ok v.canonical := by
  have hread := Json.readValue_writeValue v (r := []) h (by simp [Json.EndsNumber])
  rw [List.append_nil] at hread
  unfold Json.readAll
  rw [(Json.beginsValue_writeValue h).skipBlanks, hread]
  rfl

/-- The document of metadata begins with a brace or a letter, so with no byte order mark. -/
theorem exists_cons_of_encode {v : Value} {t : Text} (hv : v.IsMapping) (h : encode v = .ok t) :
    ∃ c s, t = c :: s ∧ c.val ≠ 0xFEFF := by
  rw [encode_eq_ok_iff] at h
  cases v with
  | null =>
    cases h
    exact ⟨_, _, rfl, by decide⟩
  | dict entries =>
    rw [Json.writeValue] at h
    obtain ⟨-, ps, -, rfl⟩ := Json.writeContainer_eq_ok h
    exact ⟨_, _, rfl, by decide⟩
  | _ => cases hv

/-- What is written of metadata is written of their canonical form too. -/
theorem encode_canonical {v : Value} {t : Text} (h : encode v = .ok t) (hk : v.DistinctKeys) :
    encode v.canonical = .ok t :=
  encode_eq_ok_iff.mpr (Json.writeValue_canonical v (encode_eq_ok_iff.mp h) hk)

/-- What is written of metadata is read as their canonical form. -/
theorem decode_of_encode {v : Value} {t : Text} (hv : v.IsMapping) (h : encode v = .ok t) :
    decode (.text t) = .ok v.canonical := by
  have hread := readAll_of_write (encode_eq_ok_iff.mp h)
  obtain ⟨c, s, rfl, hc⟩ := exists_cons_of_encode hv h
  unfold decode Json.readText
  simp only [hc, if_false, Json.parse, hread, Except.mapError]
  exact ofDocument_eq_ok hv.canonical

/-- What is written of metadata is read as their canonical form, and plain metadata are read as
they were. -/
theorem decode_encode {v : Value} {t : Text} (hv : v.IsMapping) (h : encode v = .ok t) :
    decode (.text t) = .ok v.canonical ∧ (v.Plain → decode (.text t) = .ok v) := by
  have hdecode := decode_of_encode hv h
  refine ⟨hdecode, fun hp => ?_⟩
  rw [hdecode, Value.canonical_eq_self v hp]

/-- Metadata with keys of all kinds, of which two pairs have one name, a tuple, a negative zero and
surrogates alone and in pairs. -/
def mixed : Value :=
  .dict [(.int 1, .tuple [.int (-30), .float (Binary64.negate 0)]),
    (.bool false, .list [.float (Binary64.ofDecimal false 25 (-1)), .bool true]),
    (.text "1", .text [⟨0xD83D, by decide⟩, ⟨0xDE00, by decide⟩, ⟨0xDC00, by decide⟩]),
    (.float (Binary64.ofDecimal false 5 (-1)), .dict [(.null, .bool false)]),
    (.text "false", .text "\n\"")]

def mixedCanonical : Value :=
  .dict [(.text "1", .text [⟨0x1F600, by decide⟩, ⟨0xDC00, by decide⟩]),
    (.text "false", .text "\n\""),
    (.text "0.5", .dict [(.text "null", .bool false)])]

def mixedDocument : Text :=
  Text.ofString "\x7b\"1\": [-30, -0.0], \"false\": [2.5, true], "
    ++ Text.ofString "\"1\": \"\\ud83d\\ude00\\udc00\", \"0.5\": \x7b\"null\": false\x7d, "
    ++ Text.ofString "\"false\": \"\\n\\\"\"\x7d"

theorem decode_mixedDocument :
    encode mixed = .ok mixedDocument ∧ decode (.text mixedDocument) = .ok mixedCanonical := by
  have h : encode mixed = .ok mixedDocument := by decide +kernel
  have hd := (decode_encode (v := mixed) trivial h).1
  exact ⟨h, hd.trans (by decide +kernel)⟩

end Metadata

end Registry
