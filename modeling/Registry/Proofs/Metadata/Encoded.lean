import Registry.Proofs.Metadata.Language
import Registry.Proofs.Text.Detected

/-!
# Metadata stored as data

A document of metadata begins with two ASCII code points that are not zero
(`Json.Document.beginsAscii`): white space, the braces of an object, the quote of a name or the
letters of `null`. So the encoding of data that carry it is detected, and what is read from the data
is what is read from the text (`decode_bytes_encode`).
-/

namespace Registry

/-! ## How documents of metadata begin -/

namespace Json

theorem IsBlankText.isNonzeroAscii {b : Text} (hb : IsBlankText b) :
    ∀ c ∈ b, c.IsNonzeroAscii := by
  intro c hc
  have hblank := hb c hc
  simp only [isBlank, Bool.or_eq_true, beq_iff_eq] at hblank
  unfold CodePoint.IsNonzeroAscii
  omega

theorem Members.beginsAscii {digits : Nat} {s : Text} {es : List (Text × Value)}
    (h : Members digits s es) : s.BeginsAscii 1 := by
  have hname {n name : Text} (hn : Names n name) : n.BeginsAscii 1 := by
    obtain ⟨hb, -, -⟩ := hn
    exact Text.BeginsAscii.append_left hb.isNonzeroAscii ⟨by decide, trivial⟩
  cases h with
  | one hn _ => exact (hname hn).append _
  | more hn _ _ => exact (hname hn).append _

/-- A mapping, or null, is denoted by a text that begins with two ASCII code points. -/
theorem Denotes.beginsAscii {digits : Nat} {s : Text} {v : Value} (h : Denotes digits s v)
    (hv : v.IsMapping) : s.BeginsAscii 2 := by
  cases h with
  | null => exact ⟨by decide, by decide, trivial⟩
  | emptyObject hb =>
    exact ⟨by decide, Text.BeginsAscii.append_left hb.isNonzeroAscii ⟨by decide, trivial⟩⟩
  | object hs => exact ⟨by decide, hs.beginsAscii.append _⟩
  | _ => cases hv

theorem Document.beginsAscii {digits : Nat} {t : Text} {v : Value} (h : Document digits t v)
    (hv : v.IsMapping) : t.BeginsAscii 2 := by
  obtain ⟨hb, hs, -⟩ := h
  exact Text.BeginsAscii.append_left hb.isNonzeroAscii ((hs.beginsAscii hv).append _)

end Json

/-! ## Reading data -/

namespace Metadata

/-- Metadata are read from data as they are from the text that the data carry. -/
theorem decode_bytes_encode {t : Text} {v : Value} (hne : t ≠ []) (ht : t.NoSurrogates)
    (h : decode (.text t) = .ok v) (e : Encoding) : decode (.bytes (e.encode t)) = .ok v := by
  obtain ⟨c, u, rfl⟩ := List.exists_cons_of_ne_nil hne
  obtain ⟨hv, hread⟩ := ofRead_eq_ok_iff.mp h
  have hparse := readText_eq_ok hread
  have hbegins := (Json.readAll_sound (mapError_eq_ok.mp hparse)).beginsAscii hv
  obtain ⟨x, b, hdata⟩ := List.exists_cons_of_ne_nil (e.encode_ne_nil ht hne)
  have hbytes : Json.readBytes (x :: b) = .ok v := by
    rw [← hdata, Json.readBytes, e.detect_encode hbegins, e.decode_encode_text ht]
    exact hparse
  rw [hdata]
  exact ofRead_eq_ok_iff.mpr ⟨hv, hbytes⟩

end Metadata

end Registry
