import Registry.Proofs.Json.Complete
import Registry.Proofs.Metadata

/-!
# The language of stored metadata

`decode` accepts a text exactly if it is empty or a document that denotes metadata, and gives what
the text denotes (`decode_text`). Every other text is refused as no document or as no metadata, if
it is not nested too deeply.
-/

namespace Registry.Metadata

/-- The metadata that a stored text stands for: none if it is empty, and otherwise the mapping or
the null that it denotes as a document. -/
def StandsFor (t : Text) (v : Value) : Prop :=
  t = [] ∧ v = .null ∨ v.IsMapping ∧ Json.Document Json.integerDigitLimit t v

theorem ofDocument_eq_ok_iff {v w : Value} : ofDocument v = .ok w ↔ v.IsMapping ∧ w = v := by
  constructor
  · intro h
    cases v with
    | null | dict => exact ⟨trivial, (Except.ok.inj h).symm⟩
    | _ => cases h
  · rintro ⟨h, rfl⟩
    exact ofDocument_eq_ok h

/-- A document that is read is accepted if it denotes metadata. -/
theorem ofRead_eq_ok_iff {read : Except Json.ReadError Value} {v : Value} :
    (match read with
      | .ok w => ofDocument w
      | .error e => .error (.unreadable e)) = .ok v ↔ v.IsMapping ∧ read = .ok v := by
  cases read with
  | error e => exact ⟨nofun, fun h => nomatch h.2⟩
  | ok w =>
    simp only [ofDocument_eq_ok_iff, Except.ok.injEq]
    constructor
    · rintro ⟨hw, rfl⟩
      exact ⟨hw, rfl⟩
    · rintro ⟨hv, rfl⟩
      exact ⟨hv, rfl⟩

theorem not_isNesting_of_ofDocument {v : Value} {e : MetadataError}
    (h : ofDocument v = .error e) : e.isNesting = false := by
  cases v with
  | null | dict => cases h
  | _ =>
    cases h
    rfl

/-! ## Texts -/

/-- A text that does not begin with a byte order mark is read as a document. -/
theorem readText_eq (t : Text) :
    Json.readText t = Json.parse t ∨ (∃ u, t = CodePoint.ofNat 0xFEFF :: u)
      ∧ ∃ e, Json.readText t = .error e ∧ e ≠ .nesting := by
  cases t with
  | nil => exact .inl rfl
  | cons c u =>
    rw [Json.readText]
    split
    · next hc =>
      refine .inr ⟨⟨u, ?_⟩, _, rfl, fun heq => by cases heq⟩
      rw [show c = CodePoint.ofNat 0xFEFF from CodePoint.val_injective hc]
    · exact .inl rfl

theorem readText_eq_ok {t : Text} {v : Value} (h : Json.readText t = .ok v) :
    Json.parse t = .ok v := by
  rcases readText_eq t with hread | ⟨-, e, hread, -⟩
  · rwa [hread] at h
  · rw [hread] at h
    cases h

theorem readText_eq_ok_iff {t : Text} {v : Value} (h : Json.nesting t ≤ Json.nestingLimit) :
    Json.readText t = .ok v ↔ Json.Document Json.integerDigitLimit t v := by
  rcases readText_eq t with hread | ⟨⟨u, rfl⟩, e, hread, -⟩
  · rw [hread, Json.parse, mapError_eq_ok, Json.readAll_eq_ok_iff h]
  · rw [hread]
    constructor
    · intro hok
      cases hok
    · intro hdocument
      obtain ⟨c, u, heq, hc⟩ := hdocument.begins
      cases heq
      exact absurd hc (by decide)

theorem readText_ne_nesting {t : Text} (h : Json.nesting t ≤ Json.nestingLimit) :
    Json.readText t ≠ .error .nesting := by
  rcases readText_eq t with hread | ⟨-, e, hread, he⟩
  · rw [hread, Json.parse]
    cases hall : Json.readAll t with
    | ok v =>
      intro hok
      cases hok
    | error stop =>
      cases stop with
      | nesting => exact absurd hall (Json.readAll_ne_nesting h)
      | _ =>
        intro herror
        cases herror
  · rw [hread]
    exact fun heq => he (Except.error.inj heq)

theorem decode_cons (c : CodePoint) (u : Text) :
    decode (.text (c :: u)) = match Json.readText (c :: u) with
      | .ok v => ofDocument v
      | .error e => .error (.unreadable e) := rfl

/-- What stands for metadata and is not empty is a document. -/
theorem standsFor_cons_iff {c : CodePoint} {u : Text} {v : Value} :
    StandsFor (c :: u) v ↔ v.IsMapping ∧ Json.Document Json.integerDigitLimit (c :: u) v := by
  simp [StandsFor]

theorem standsFor_nil_iff {v : Value} : StandsFor [] v ↔ v = .null := by
  constructor
  · rintro (⟨-, h⟩ | ⟨-, h⟩)
    · exact h
    · obtain ⟨c, u, hnil, -⟩ := h.begins
      cases hnil
  · exact fun h => .inl ⟨rfl, h⟩

theorem decode_text_eq_ok_iff {t : Text} (h : Json.nesting t ≤ Json.nestingLimit) {v : Value} :
    decode (.text t) = .ok v ↔ StandsFor t v := by
  cases t with
  | nil =>
    rw [standsFor_nil_iff]
    exact ⟨fun hok => (Except.ok.inj hok).symm, fun hv => congrArg Except.ok hv.symm⟩
  | cons c u =>
    rw [standsFor_cons_iff, ← readText_eq_ok_iff h]
    exact ofRead_eq_ok_iff

theorem not_isNesting_of_decode_text {t : Text} (h : Json.nesting t ≤ Json.nestingLimit)
    {e : MetadataError} (he : decode (.text t) = .error e) : e.isNesting = false := by
  cases t with
  | nil => cases he
  | cons c u =>
    have hne := readText_ne_nesting h
    rw [decode_cons] at he
    cases hread : Json.readText (c :: u) with
    | ok v =>
      rw [hread] at he
      exact not_isNesting_of_ofDocument he
    | error f =>
      rw [hread] at he hne
      cases he
      cases f with
      | nesting => exact absurd rfl hne
      | _ => rfl

/-- A text is accepted exactly if it stands for metadata, which are what is given; any other text is
refused, and not for its nesting. -/
theorem decode_text {t : Text} (h : Json.nesting t ≤ Json.nestingLimit) :
    (∀ v, decode (.text t) = .ok v ↔ StandsFor t v)
      ∧ ((¬∃ v, StandsFor t v) → ∃ e, decode (.text t) = .error e ∧ e.isNesting = false) := by
  refine ⟨fun v => decode_text_eq_ok_iff h, fun hnone => ?_⟩
  cases hdecode : decode (.text t) with
  | ok v => exact absurd ⟨v, (decode_text_eq_ok_iff h).mp hdecode⟩ hnone
  | error e => exact ⟨e, rfl, not_isNesting_of_decode_text h hdecode⟩

/-- A document with white space around it, an array, a name that stands twice, a literal for no
number, and surrogates escaped alone and in pairs. -/
def annotatedText : Text :=
  Text.ofString " \n\x7b \"a\": [1, -2.5E+1, \x7b\x7d ], \"b\":NaN,"
    ++ Text.ofString "\"a\" : \"\\ud83d\\ude00\\ud83d\\n\", \"c\": [true, null ]\x7d\t"

/-- What the document stands for. -/
def annotatedValue : Value :=
  .dict [(.text "a", .text [CodePoint.ofNat 0x1F600, CodePoint.ofNat 0xD83D, CodePoint.ofNat 10]),
    (.text "b", .float (.nan 0)), (.text "c", .list [.bool true, .null])]

/-- The text with a comma after the last member. -/
def trailingComma : Text := "\x7b\"a\": 1,\x7d"

theorem decode_text_annotated :
    StandsFor annotatedText annotatedValue ∧ (¬∃ v, StandsFor trailingComma v)
      ∧ ∃ e, decode (.text trailingComma) = .error e ∧ e.isNesting = false := by
  have haccepted := (decode_text (t := annotatedText) (by decide +kernel)).1 annotatedValue
  have hrefused := decode_text (t := trailingComma) (by decide +kernel)
  have herror : decode (.text trailingComma)
      = .error (.unreadable (.fault .name ⟨8, 1, 9⟩)) := by decide +kernel
  have hnone : ¬∃ v, StandsFor trailingComma v := by
    rintro ⟨v, hv⟩
    rw [(hrefused.1 v).mpr hv] at herror
    cases herror
  exact ⟨haccepted.mp (by decide +kernel), hnone, hrefused.2 hnone⟩

end Registry.Metadata
