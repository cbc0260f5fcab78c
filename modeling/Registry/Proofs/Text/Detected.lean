import Registry.Proofs.Text.Wide
import Registry.Text.Encoding.Detect

/-!
# Data in a detected encoding

A text can be written as data in any encoding that is detected, with the mark or without it
(`Encoding.encode`). If it begins with two ASCII code points that are not zero, the encoding is
detected of the data (`Encoding.detect_encode`): the first octets are the mark, or the places of the
zeros among them are those of the encoding. If it has no surrogates, it is decoded from the data
(`Encoding.decode_encode_text`).
-/

namespace Registry

/-! ## Texts that begin with ASCII -/

/-- The code point is ASCII and not zero. -/
def CodePoint.IsNonzeroAscii (c : CodePoint) : Prop := 0 < c.val ∧ c.val < 0x80

instance (c : CodePoint) : Decidable c.IsNonzeroAscii := inferInstanceAs (Decidable (_ ∧ _))

/-- The text begins with so many code points that are ASCII and not zero. -/
def Text.BeginsAscii : Nat → Text → Prop
  | 0, _ => True
  | _ + 1, [] => False
  | n + 1, c :: t => c.IsNonzeroAscii ∧ BeginsAscii n t

namespace Text.BeginsAscii

theorem of_succ {n : Nat} {t : Text} (h : BeginsAscii (n + 1) t) : BeginsAscii n t := by
  induction n generalizing t with
  | zero => trivial
  | succ n ih =>
    cases t with
    | nil => exact h
    | cons c t => exact ⟨h.1, ih h.2⟩

theorem append {n : Nat} {t : Text} (h : BeginsAscii n t) (u : Text) : BeginsAscii n (t ++ u) := by
  induction n generalizing t with
  | zero => trivial
  | succ n ih =>
    cases t with
    | nil => cases h
    | cons c t => exact ⟨h.1, ih h.2⟩

/-- More of these code points may stand before. -/
theorem append_left {n : Nat} {b t : Text} (hb : ∀ c ∈ b, c.IsNonzeroAscii)
    (h : BeginsAscii n t) : BeginsAscii n (b ++ t) := by
  induction b generalizing n with
  | nil => exact h
  | cons c b ih =>
    cases n with
    | zero => trivial
    | succ n =>
      exact ⟨hb c List.mem_cons_self, ih (fun d hd => hb d (List.mem_cons_of_mem c hd)) h.of_succ⟩

end Text.BeginsAscii

/-! ## Data -/

/-- The code point that data may begin with to tell their encoding. -/
def byteOrderMark : CodePoint := CodePoint.ofNat 0xFEFF

namespace Encoding

/-- The data begin with the mark. -/
def isMarked : Encoding → Bool
  | utf8 marked => marked
  | utf16 _ marked => marked
  | utf32 _ marked => marked

/-- The octets of a text, without a mark. -/
def octets : Encoding → Text → Octets
  | utf8 _, t => Utf8.encode t
  | utf16 order _, t => Utf16.encode order t
  | utf32 order _, t => Utf32.encode order t

/-- The data that carry a text in this encoding. -/
def encode (e : Encoding) (t : Text) : Octets :=
  e.octets (if e.isMarked then byteOrderMark :: t else t)

/-- A text without surrogates is decoded from the data that carry it. -/
theorem decode_encode_text (e : Encoding) {t : Text} (h : t.NoSurrogates) :
    e.decode (e.encode t) = .ok t := by
  cases e with
  | utf8 marked => cases marked <;> exact Utf8.decodeWithSurrogates_encode h
  | utf16 order marked =>
    cases marked with
    | false => exact Utf16.decode_encode_text order 0 h
    | true => cases order <;> exact Utf16.decode_encode_text _ 2 h
  | utf32 order marked =>
    cases marked with
    | false => exact Utf32.decode_encode_text order 0 t
    | true => cases order <;> exact Utf32.decode_encode_text _ 4 t

theorem decode_nil (e : Encoding) : e.decode [] = .ok [] := by
  cases e with
  | utf8 marked => cases marked <;> exact Utf8.decodeWithSurrogates_encode (t := []) nofun
  | utf16 order marked => cases marked <;> rfl
  | utf32 order marked =>
    cases marked with
    | false => exact Utf32.decode_encode_text order 0 []
    | true => exact Utf32.decode_encode_text order 4 []

theorem encode_ne_nil (e : Encoding) {t : Text} (h : t.NoSurrogates) (hne : t ≠ []) :
    e.encode t ≠ [] := by
  intro hnil
  have hdecode := e.decode_encode_text h
  rw [hnil, decode_nil] at hdecode
  exact hne (Except.ok.inj hdecode).symm

/-! ## Detecting -/

theorem ofMark?_eq_none {a b : UInt8} {rest : Octets} (ha : a < 0x80)
    (h : a = 0 → b = 0 → ∀ c ∈ rest.head?, c < 0x80) : ofMark? (a :: b :: rest) = none := by
  unfold ofMark?
  split
  · next heq =>
    cases heq
    exact absurd (h rfl rfl 0xFE rfl) (by decide)
  -- the first octet of every other mark is none of ASCII
  all_goals first
    | rfl
    | next heq =>
      cases heq
      exact absurd ha (by decide)

/-- The octet of an ASCII code point that is not zero. -/
theorem toUInt8_nonzeroAscii {c : CodePoint} (h : c.IsNonzeroAscii) :
    c.val.toUInt8 ≠ 0 ∧ c.val.toUInt8 < 0x80 := by
  obtain ⟨hpos, hlt⟩ := h
  have htoNat := Utf8.toNat_toUInt8 (show c.val < 0x100 by omega)
  constructor
  · intro hzero
    rw [hzero] at htoNat
    exact absurd htoNat hpos.ne
  · rw [UInt8.lt_iff_toNat_lt, htoNat]
    exact hlt

theorem octets_little_zero (count : Nat) :
    ByteOrder.little.octets count 0 = List.replicate count 0 := by
  induction count with
  | zero => rfl
  | succ count ih =>
    rw [ByteOrder.octets_little_succ, Nat.zero_div, ih]
    rfl

/-- The octets of a small number but for the least are zero. -/
theorem octets_little_of_lt (count : Nat) {n : Nat} (h : n < 0x80) :
    ByteOrder.little.octets (count + 1) n = n.toUInt8 :: List.replicate count 0 := by
  rw [ByteOrder.octets_little_succ, Nat.div_eq_of_lt (by omega), octets_little_zero]

theorem utf8_encode_cons {c : CodePoint} (hc : c.IsNonzeroAscii) (t : Text) :
    Utf8.encode (c :: t) = c.val.toUInt8 :: Utf8.encode t := by
  have hpoint : Utf8.encodePoint c = [c.val.toUInt8] := if_pos hc.2
  rw [Utf8.encode, List.flatMap_cons, hpoint]
  rfl

theorem utf16_encode_cons {c : CodePoint} (hc : c.IsNonzeroAscii) (order : ByteOrder) (t : Text) :
    Utf16.encode order (c :: t) = order.octets 2 c.val ++ Utf16.encode order t := by
  have hunits : Utf16.unitsOf c = [c.val] := if_pos (hc.2.trans (by decide))
  rw [Utf16.encode, List.flatMap_cons, hunits]
  rfl

theorem ofZeros_of_ne {a b : UInt8} (ha : a ≠ 0) (hb : b ≠ 0) :
    (rest : Octets) → ofZeros (a :: b :: rest) = utf8 false
  | [] => by simp [ofZeros, ha, hb]
  | [_] => rfl
  | _ :: _ :: _ => by simp [ofZeros, ha, hb]

section

variable {c d : CodePoint} (hc : c.IsNonzeroAscii) (hd : d.IsNonzeroAscii) (u : Text)

include hc

/-- The mark of UTF-16 begins that of UTF-32, but no zeros follow it. -/
theorem detect_utf16_marked :
    detect (Utf16.encode .little (byteOrderMark :: c :: u)) = utf16 .little true := by
  have hmark : Utf16.encode .little (byteOrderMark :: c :: u)
      = 0xFF :: 0xFE :: Utf16.encode .little (c :: u) := rfl
  have hne := (toUInt8_nonzeroAscii hc).1
  rw [hmark, utf16_encode_cons hc, octets_little_of_lt 1 hc.2]
  simp [detect, ofMark?, hne]

/-- Without a mark the places of the zeros tell the encoding. -/
theorem detect_utf32 (order : ByteOrder) :
    detect (Utf32.encode order (c :: u)) = utf32 order false := by
  obtain ⟨hne, hlt⟩ := toUInt8_nonzeroAscii hc
  show detect (order.octets 4 c.val ++ Utf32.encode order u) = _
  cases order with
  | little =>
    rw [octets_little_of_lt 3 hc.2]
    simp only [List.replicate, List.cons_append, List.nil_append]
    rw [detect, ofMark?_eq_none hlt fun h => absurd h hne]
    simp [ofZeros, hne]
  | big =>
    rw [ByteOrder.octets_big, octets_little_of_lt 3 hc.2]
    simp only [List.replicate, List.reverse_cons, List.reverse_nil, List.cons_append,
      List.nil_append]
    rw [detect, ofMark?_eq_none (by decide) fun _ _ x hx => by cases hx; decide]
    simp [ofZeros]

include hd

/-- No zeros are among the first octets in UTF-8. -/
theorem detect_utf8 : detect (Utf8.encode (c :: d :: u)) = utf8 false := by
  have hoctets : Utf8.encode (c :: d :: u) = c.val.toUInt8 :: d.val.toUInt8 :: Utf8.encode u := by
    rw [utf8_encode_cons hc, utf8_encode_cons hd]
  obtain ⟨hne, hlt⟩ := toUInt8_nonzeroAscii hc
  rw [hoctets, detect, ofMark?_eq_none hlt fun h => absurd h hne]
  exact ofZeros_of_ne hne (toUInt8_nonzeroAscii hd).1 _

theorem detect_utf16 (order : ByteOrder) :
    detect (Utf16.encode order (c :: d :: u)) = utf16 order false := by
  obtain ⟨hne, hlt⟩ := toUInt8_nonzeroAscii hc
  have hne' := (toUInt8_nonzeroAscii hd).1
  rw [utf16_encode_cons hc, utf16_encode_cons hd]
  cases order with
  | little =>
    rw [octets_little_of_lt 1 hc.2, octets_little_of_lt 1 hd.2]
    simp only [List.replicate, List.cons_append, List.nil_append]
    rw [detect, ofMark?_eq_none hlt fun h => absurd h hne]
    simp [ofZeros, hne, hne']
  | big =>
    rw [ByteOrder.octets_big, ByteOrder.octets_big, octets_little_of_lt 1 hc.2,
      octets_little_of_lt 1 hd.2]
    simp only [List.replicate, List.reverse_cons, List.reverse_nil, List.cons_append,
      List.nil_append]
    rw [detect, ofMark?_eq_none (by decide) fun _ h => absurd h hne]
    simp [ofZeros, hne]

end

/-- The encoding is detected of the data that carry a text which begins with ASCII. -/
theorem detect_encode (e : Encoding) {t : Text} (h : t.BeginsAscii 2) :
    detect (e.encode t) = e := by
  obtain ⟨c, d, u, rfl, hc, hd⟩ : ∃ c d u, t = c :: d :: u
      ∧ c.IsNonzeroAscii ∧ d.IsNonzeroAscii := by
    match t, h with
    | c :: d :: u, ⟨hc, hd, _⟩ => exact ⟨c, d, u, rfl, hc, hd⟩
  cases e with
  | utf8 marked =>
    cases marked with
    | false => exact detect_utf8 hc hd u
    | true => rfl
  | utf16 order marked =>
    cases marked with
    | false => exact detect_utf16 hc hd u order
    | true =>
      cases order with
      | big => rfl
      | little => exact detect_utf16_marked hc (d :: u)
  | utf32 order marked =>
    cases marked with
    | false => exact detect_utf32 hc (d :: u) order
    | true => cases order <;> rfl

end Encoding

end Registry
