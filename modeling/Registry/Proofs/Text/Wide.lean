import Mathlib.Data.List.Basic
import Registry.Proofs.Json.Strings
import Registry.Proofs.Text.Utf8
import Registry.Text.Encoding.Wide

/-!
# UTF-16 and UTF-32 read back

A text without surrogates is decoded from its octets in either byte order, from any position
(`Utf16.decode_encode_text`, `Utf32.decode_encode_text`). The octets of a number stand for it if
there are enough of them, and the two units that a code point beyond the basic plane has in UTF-16
are joined again, while no other two are.
-/

namespace Registry

/-! ## Octets of a number -/

namespace ByteOrder

theorem length_octets (order : ByteOrder) (count n : Nat) :
    (order.octets count n).length = count := by
  cases order <;> simp [octets]

theorem octets_little_succ (count n : Nat) :
    little.octets (count + 1) n = n.toUInt8 :: little.octets count (n / 0x100) := by
  have hpower (i : Nat) : n / Nat.pow 0x100 (i + 1) = n / 0x100 / Nat.pow 0x100 i := by
    rw [Nat.div_div_eq_div_mul]
    exact congrArg (n / ·) (pow_succ' 0x100 i)
  simp only [octets, List.range_succ_eq_map, List.map_cons, List.map_map, Function.comp_def,
    Nat.succ_eq_add_one, hpower]
  exact congrArg (·.toUInt8 :: _) (Nat.div_one n)

theorem octets_big (count n : Nat) : big.octets count n = (little.octets count n).reverse := rfl

theorem value_big_reverse (b : Octets) : big.value b.reverse = little.value b :=
  List.foldl_reverse

theorem value_little_octets (count n : Nat) :
    little.value (little.octets count n) = n % 0x100 ^ count := by
  induction count generalizing n with
  | zero => exact (Nat.mod_one n).symm
  | succ count ih =>
    rw [octets_little_succ]
    show little.value (little.octets count (n / 0x100)) * 0x100 + n.toUInt8.toNat = _
    rw [ih, pow_succ', Nat.mod_mul, Nat.toUInt8, UInt8.toNat_ofNat']
    omega

/-- The octets of a number stand for what fits in them. -/
theorem value_octets (order : ByteOrder) (count n : Nat) :
    order.value (order.octets count n) = n % 0x100 ^ count := by
  cases order with
  | little => exact value_little_octets count n
  | big => rw [octets_big, value_big_reverse, value_little_octets]

theorem value_octets_of_lt (order : ByteOrder) {count n : Nat} (h : n < 0x100 ^ count) :
    order.value (order.octets count n) = n := by
  rw [value_octets, Nat.mod_eq_of_lt h]

end ByteOrder

/-! ## UTF-16 -/

namespace Utf16

/-- The octets of units are read as these units. -/
theorem units_octets (order : ByteOrder) {ns : List Nat} (h : ∀ n ∈ ns, n < 0x10000) (pos : Nat) :
    units order pos (ns.flatMap (order.octets 2)) = (ns.map CodePoint.ofNat, none) := by
  induction ns generalizing pos with
  | nil => rfl
  | cons n ns ih =>
    obtain ⟨a, b, hab⟩ := List.length_eq_two.mp (order.length_octets 2 n)
    have hvalue : order.value [a, b] = n := by
      rw [← hab]
      exact order.value_octets_of_lt (h n List.mem_cons_self)
    rw [List.flatMap_cons, hab]
    show units order pos (a :: b :: ns.flatMap (order.octets 2)) = _
    rw [units, ih fun m hm => h m (List.mem_cons_of_mem n hm)]
    simp only [hvalue, List.map_cons]

theorem unitsOf_lt {c : CodePoint} {n : Nat} (h : n ∈ unitsOf c) : n < 0x10000 := by
  have hc := c.isLt
  unfold unitsOf at h
  split at h
  · rw [List.mem_singleton] at h
    omega
  · simp only [List.mem_cons, List.not_mem_nil, or_false] at h
    omega

theorem joinSurrogates_cons {c : CodePoint} (h : c.isHighSurrogate = false) (t : Text) :
    joinSurrogates (c :: t) = c :: joinSurrogates t := by
  cases t with
  | nil => rfl
  | cons d t =>
    rw [joinSurrogates, h, Bool.false_and]
    exact if_neg Bool.false_ne_true

/-- The units of a code point that is no surrogate are joined to it again. -/
theorem joinSurrogates_unitsOf_append {c : CodePoint} (h : c.isSurrogate = false) (t : Text) :
    joinSurrogates ((unitsOf c).map CodePoint.ofNat ++ t) = c :: joinSurrogates t := by
  unfold unitsOf
  split
  · show joinSurrogates (CodePoint.ofNat c.val :: t) = _
    rw [CodePoint.ofNat_val]
    refine joinSurrogates_cons ?_ t
    by_contra hhigh
    rw [Json.isSurrogate_of_isHighSurrogate (Bool.not_eq_false _ ▸ hhigh)] at h
    cases h
  · next hc =>
    have hc : 0x10000 ≤ c.val := Nat.not_lt.mp hc
    show joinSurrogates (Json.highHalf c :: Json.lowHalf c :: t) = _
    rw [joinSurrogates, Json.highHalf_isHighSurrogate hc, Json.lowHalf_isLowSurrogate c,
      Json.ofSurrogates_halves hc]
    rfl

theorem joinSurrogates_unitsOf {t : Text} (h : t.NoSurrogates) :
    joinSurrogates ((t.flatMap unitsOf).map CodePoint.ofNat) = t := by
  induction t with
  | nil => rfl
  | cons c t ih =>
    rw [List.flatMap_cons, List.map_append, joinSurrogates_unitsOf_append (h c List.mem_cons_self),
      ih fun d hd => h d (List.mem_cons_of_mem c hd)]

/-- A text without surrogates is decoded from its octets. -/
theorem decode_encode_text (order : ByteOrder) (pos : Nat) {t : Text} (h : t.NoSurrogates) :
    decode order pos (encode order t) = .ok t := by
  have hlt : ∀ n ∈ t.flatMap unitsOf, n < 0x10000 := by
    intro n hn
    obtain ⟨c, -, hc⟩ := List.mem_flatMap.mp hn
    exact unitsOf_lt hc
  rw [decode, encode, units_octets order hlt]
  exact congrArg Except.ok (joinSurrogates_unitsOf h)

end Utf16

/-! ## UTF-32 -/

namespace Utf32

/-- A text is decoded from its octets, surrogates included. -/
theorem decode_encode_text (order : ByteOrder) (pos : Nat) (t : Text) :
    decode order pos (encode order t) = .ok t := by
  induction t generalizing pos with
  | nil =>
    show decode order pos [] = .ok []
    rw [decode]
  | cons p t ih =>
    have hp := p.isLt
    have hlength := order.length_octets 4 p.val
    have hvalue := @ByteOrder.value_octets_of_lt order 4 p.val (by omega)
    show decode order pos (order.octets 4 p.val ++ encode order t) = _
    match hoctets : order.octets 4 p.val, hlength with
    | [a, b, c, d], _ =>
      rw [hoctets] at hvalue
      show decode order pos (a :: b :: c :: d :: encode order t) = _
      rw [decode]
      simp only [hvalue, hp, dite_true, ih]
      rfl

end Utf32

end Registry
