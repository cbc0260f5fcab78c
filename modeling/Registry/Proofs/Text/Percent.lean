import Registry.Proofs.Text.Utf8
import Registry.Text.Percent

/-!
# Percent coding read back

What is encoded is ASCII and made up of unreserved code points, the additional ones and percent
signs (`Percent.mem_encode`), so that a sign which separates parts does not occur inside of one. A
text without surrogates is decoded from what is encoded (`Percent.decode_encoded`,
`Percent.decodeQuery_encoded`), and decoding makes no surrogates (`Percent.decode_noSurrogates`).
-/

namespace Registry.Percent

/-! ## What is written -/

theorem hexValue?_ofUpperHexDigit :
    ∀ n < 16, (CodePoint.ofUpperHexDigit n).hexValue? = some n := by
  decide

theorem isUnreserved_ofUpperHexDigit :
    ∀ n < 16, isUnreserved (CodePoint.ofUpperHexDigit n) = true := by
  decide

theorem ascii_of_isUnreserved {c : CodePoint} (h : isUnreserved c = true) : c.val < 0x80 := by
  simp only [isUnreserved, CodePoint.isAsciiAlphanumeric, CodePoint.isDigit, Bool.or_eq_true,
    Bool.and_eq_true, decide_eq_true_eq, CodePoint.is_iff] at h
  rcases h with (((h | h) | h) | h) | h
  · omega
  all_goals
    rw [h]
    decide

theorem div_16_lt (b : UInt8) : b.toNat / 16 < 16 := by
  have := b.toNat_lt
  omega

theorem mem_escape {b : UInt8} {c : CodePoint} (h : c ∈ escape b) :
    isUnreserved c = true ∨ c.is '%' = true := by
  simp only [escape, List.mem_cons, List.not_mem_nil, or_false] at h
  rcases h with rfl | rfl | rfl
  · exact .inr rfl
  · exact .inl (isUnreserved_ofUpperHexDigit _ (div_16_lt b))
  · exact .inl (isUnreserved_ofUpperHexDigit _ (Nat.mod_lt _ (by decide)))

section Encode

variable {isSafe : CodePoint → Bool} {t : Text} {c : CodePoint}

theorem mem_encode (h : c ∈ encode isSafe t) :
    isUnreserved c = true ∨ (c.val < 0x80 ∧ isSafe c = true) ∨ c.is '%' = true := by
  obtain ⟨d, -, hd⟩ := List.mem_flatMap.mp h
  split at hd
  · next hkept =>
    obtain rfl := List.mem_singleton.mp hd
    simp only [Bool.or_eq_true, Bool.and_eq_true, decide_eq_true_eq] at hkept
    exact hkept.imp_right .inl
  · obtain ⟨b, -, hb⟩ := List.mem_flatMap.mp hd
    exact (mem_escape hb).imp_right .inr

theorem encode_isAscii : (encode isSafe t).IsAscii := by
  intro c hc
  rcases mem_encode hc with h | ⟨h, -⟩ | h
  · exact ascii_of_isUnreserved h
  · exact h
  · rw [CodePoint.is_iff.mp h]
    decide

/-- A character that no encoding leaves alone does not occur in a text that is encoded. -/
theorem is_false_of_mem_encode {x : Char} (hx : isUnreserved (.ofChar x) = false) (hp : x ≠ '%')
    (hs : isSafe (.ofChar x) = false) (h : c ∈ encode isSafe t) : c.is x = false := by
  rw [← Bool.not_eq_true]
  intro hc
  obtain rfl := CodePoint.eq_ofChar_of_is hc
  rcases mem_encode h with h | ⟨-, h⟩ | h
  · exact Bool.false_ne_true (hx.symm.trans h)
  · exact Bool.false_ne_true (hs.symm.trans h)
  · exact hp (Char.toNat_inj.mp (CodePoint.is_iff.mp h))

end Encode

theorem mem_encodeQuery {t : Text} {c : CodePoint} (h : c ∈ encodeQuery t) :
    isUnreserved c = true ∨ c.is '+' = true ∨ c.is '%' = true := by
  obtain ⟨d, hd, rfl⟩ := List.mem_map.mp h
  split
  · exact .inr (.inl rfl)
  · next hspace =>
    rcases mem_encode hd with h | ⟨-, h⟩ | h
    · exact .inl h
    · exact absurd h hspace
    · exact .inr (.inr h)

theorem is_false_of_mem_encodeQuery {x : Char} {t : Text} {c : CodePoint}
    (hx : isUnreserved (.ofChar x) = false) (hplus : x ≠ '+') (hp : x ≠ '%')
    (h : c ∈ encodeQuery t) : c.is x = false := by
  rw [← Bool.not_eq_true]
  intro hc
  obtain rfl := CodePoint.eq_ofChar_of_is hc
  rcases mem_encodeQuery h with h | h | h
  · exact Bool.false_ne_true (hx.symm.trans h)
  · exact hplus (Char.toNat_inj.mp (CodePoint.is_iff.mp h))
  · exact hp (Char.toNat_inj.mp (CodePoint.is_iff.mp h))

/-! ## Octets -/

theorem octets_escape (b : UInt8) (r : Text) : octets (escape b ++ r) = b :: octets r := by
  have hb : (b.toNat / 16 * 16 + b.toNat % 16).toUInt8 = b := by
    rw [Nat.div_add_mod']
    exact UInt8.ofNat_toNat
  simp only [escape, List.cons_append, List.nil_append, octets,
    hexValue?_ofUpperHexDigit _ (div_16_lt b),
    hexValue?_ofUpperHexDigit _ (Nat.mod_lt b.toNat (show 0 < 16 by decide)),
    show (CodePoint.ofChar '%').is '%' = true from rfl, hb]

theorem octets_flatMap_escape (b : Octets) (r : Text) :
    octets (b.flatMap escape ++ r) = b ++ octets r := by
  induction b with
  | nil => rfl
  | cons x b ih => rw [List.flatMap_cons, List.append_assoc, octets_escape, ih, List.cons_append]

theorem octets_cons {a : CodePoint} (h : a.is '%' = false) (r : Text) :
    octets (a :: r) = a.val.toUInt8 :: octets r := by
  match r with
  | [] => rfl
  | [b] => rfl
  | b :: c :: r => simp only [octets, h]

theorem octets_ne_nil {t : Text} (h : t ≠ []) : octets t ≠ [] := by
  match t with
  | [] => exact absurd rfl h
  | [a] => exact List.cons_ne_nil _ _
  | [a, b] => exact List.cons_ne_nil _ _
  | a :: b :: c :: r =>
    unfold octets
    split
    · exact List.cons_ne_nil _ _
    · exact List.cons_ne_nil _ _

/-- The escapes of an encoded text undone are its octets. -/
theorem octets_encode {isSafe : CodePoint → Bool} (hs : isSafe (.ofChar '%') = false) (t : Text) :
    octets (encode isSafe t) = Utf8.encode t := by
  induction t with
  | nil => rfl
  | cons c t ih =>
    rw [encode, List.flatMap_cons, ← encode, Utf8.encode, List.flatMap_cons, ← Utf8.encode]
    split
    · next hkept =>
      have hc : c.is '%' = false := by
        rw [← Bool.not_eq_true]
        intro hc
        obtain rfl := CodePoint.eq_ofChar_of_is hc
        rw [hs, Bool.and_false, Bool.or_false] at hkept
        exact absurd hkept (by decide)
      have hascii : c.val < 0x80 := by
        simp only [Bool.or_eq_true, Bool.and_eq_true, decide_eq_true_eq] at hkept
        exact hkept.elim ascii_of_isUnreserved And.left
      rw [List.singleton_append, octets_cons hc, ih, Utf8.encodePoint, if_pos hascii,
        List.singleton_append]
    · rw [octets_flatMap_escape, ih]

/-! ## What is read -/

theorem decodeRuns_of_isAscii {t : Text} (h : t.IsAscii) (ascii : Text) :
    decodeRuns ascii t = Utf8.decodeLossy (octets (ascii.reverse ++ t)) := by
  induction t generalizing ascii with
  | nil => rw [decodeRuns, List.append_nil]
  | cons c t ih =>
    rw [decodeRuns, if_pos (h c List.mem_cons_self), ih fun d hd => h d (List.mem_cons_of_mem c hd)]
    rw [List.reverse_cons, List.append_assoc, List.singleton_append]

theorem decode_of_isAscii {t : Text} (h : t.IsAscii) :
    decode t = Utf8.decodeLossy (octets t) :=
  decodeRuns_of_isAscii h []

/-- A text without surrogates is decoded from its encoding. -/
theorem decode_encoded {isSafe : CodePoint → Bool} (hs : isSafe (.ofChar '%') = false) {t : Text}
    (h : t.NoSurrogates) : decode (encode isSafe t) = t := by
  rw [decode_of_isAscii encode_isAscii, octets_encode hs, Utf8.decodeLossy_encode h]

theorem decodeQuery_encoded {t : Text} (h : t.NoSurrogates) :
    decodeQuery (encodeQuery t) = t := by
  have hback : ((encodeQuery t).map fun c => if c.is '+' then CodePoint.ofChar ' ' else c)
      = encode (fun c => c.is ' ') t := by
    rw [encodeQuery, List.map_map]
    refine (List.map_congr_left fun c hc => ?_).trans (List.map_id _)
    by_cases hspace : c.is ' ' = true
    · obtain rfl := CodePoint.eq_ofChar_of_is hspace
      rfl
    · have hplus := is_false_of_mem_encode (x := '+') (by decide) (by decide) rfl hc
      simp [hspace, hplus]
  unfold decodeQuery
  rw [hback, decode_encoded rfl h]

theorem decodeRuns_noSurrogates {t : Text} (h : t.NoSurrogates) (ascii : Text) :
    (decodeRuns ascii t).NoSurrogates := by
  induction t generalizing ascii with
  | nil => exact Utf8.decodeLossy_noSurrogates _
  | cons c t ih =>
    obtain ⟨hc, ht⟩ := List.forall_mem_cons.mp h
    rw [decodeRuns]
    split
    · exact ih ht _
    · exact List.forall_mem_append.mpr
        ⟨Utf8.decodeLossy_noSurrogates _, List.forall_mem_cons.mpr ⟨hc, ih ht []⟩⟩

theorem decode_noSurrogates {t : Text} (h : t.NoSurrogates) : (decode t).NoSurrogates :=
  decodeRuns_noSurrogates h []

theorem decodeQuery_noSurrogates {t : Text} (h : t.NoSurrogates) :
    (decodeQuery t).NoSurrogates := by
  refine decode_noSurrogates fun c hc => ?_
  obtain ⟨d, hd, rfl⟩ := List.mem_map.mp hc
  split
  · decide
  · exact h d hd

theorem decodeRuns_ne_nil {ascii t : Text} (h : ascii ≠ [] ∨ t ≠ []) : decodeRuns ascii t ≠ [] := by
  induction t generalizing ascii with
  | nil =>
    rw [decodeRuns]
    exact Utf8.decodeLossy_ne_nil (octets_ne_nil (by simpa using h))
  | cons c t ih =>
    rw [decodeRuns]
    split
    · exact ih (.inl (List.cons_ne_nil c ascii))
    · exact List.append_ne_nil_of_right_ne_nil _ (List.cons_ne_nil _ _)

theorem decodeQuery_ne_nil {t : Text} (h : t ≠ []) : decodeQuery t ≠ [] :=
  decodeRuns_ne_nil (.inr fun e => h (List.map_eq_nil_iff.mp e))

end Registry.Percent
