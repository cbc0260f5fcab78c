import Registry.Proofs.Outcome
import Registry.Proofs.Text.Ascii
import Registry.Text.Encoding.Utf8

/-!
# UTF-8 read back

A text without surrogates is decoded from its octets (`Utf8.decodeStrict_encode`), whatever the
decoder does with faults (`Utf8.decodeLossy_encode`) and with surrogates
(`Utf8.decodeWithSurrogates_encode`): the octets of each code point take the decoder from between
code points to there again. Octets are decoded to something whatever they are
(`Utf8.decodeLossy_ne_nil`), but without admitting surrogates never to one, whether faults are
replaced (`Utf8.decodeLossy_noSurrogates`) or refused (`Utf8.decodeStrict_noSurrogates`).
-/

namespace Registry.Utf8

theorem toNat_toUInt8 {n : Nat} (h : n < 0x100) : n.toUInt8.toNat = n := by
  rw [Nat.toUInt8, UInt8.toNat_ofNat', Nat.mod_eq_of_lt h]

/-- The sequence has certain bits, and is owed a number of octets, the next of which has a range. -/
structure Pending.Owes (p : Pending) (owed bits low high : Nat) : Prop where
  owed : p.owed = owed
  bits : p.bits = bits
  low : p.low = low
  high : p.high = high

/-! ## First octets -/

variable {admitted : Bool}

theorem start_one {pos n : Nat} (h : n < 0x80) : start admitted pos n.toUInt8 = .point n := by
  unfold start
  simp only [toNat_toUInt8 (show n < 0x100 by omega)]
  rw [if_pos h]

/-- The first of two octets. -/
theorem start_two (pos : Nat) {n : Nat} (h₁ : 0xC2 ≤ n) (h₂ : n < 0xE0) :
    ∃ p, start admitted pos n.toUInt8 = .pending p ∧ p.Owes 1 (n - 0xC0) 0x80 0xBF := by
  refine ⟨⟨pos, [n.toUInt8], 1, n - 0xC0, 0x80, 0xBF, false⟩, ?_, rfl, rfl, rfl, rfl⟩
  unfold start
  simp only [toNat_toUInt8 (show n < 0x100 by omega)]
  rw [if_neg (by omega), if_neg (by omega), if_pos h₂]

/-- The first of three octets: the range of the next one keeps out what is too long and what would
be a surrogate, if these are not admitted. -/
theorem start_three (pos : Nat) {n : Nat} (h₁ : 0xE0 ≤ n) (h₂ : n < 0xF0) :
    ∃ p, start admitted pos n.toUInt8 = .pending p
      ∧ p.Owes 2 (n - 0xE0) (if n = 0xE0 then 0xA0 else 0x80)
        (if n = 0xED ∧ admitted = false then 0x9F else 0xBF) := by
  refine ⟨⟨pos, [n.toUInt8], 2, n - 0xE0, if n = 0xE0 then 0xA0 else 0x80,
    if n = 0xED ∧ admitted = false then 0x9F else 0xBF, false⟩, ?_, rfl, rfl, rfl, rfl⟩
  unfold start
  simp only [toNat_toUInt8 (show n < 0x100 by omega)]
  rw [if_neg (by omega), if_neg (by omega), if_neg (by omega)]
  by_cases h0 : n = 0xE0
  · simp [h0]
  · by_cases hd : n = 0xED
    · cases admitted <;> simp [hd]
    · simp [h0, hd, h₂]

/-- The first of four octets: the range of the next one keeps out what is too long and what is
beyond the last code point. -/
theorem start_four (pos : Nat) {n : Nat} (h₁ : 0xF0 ≤ n) (h₂ : n < 0xF5) :
    ∃ p, start admitted pos n.toUInt8 = .pending p
      ∧ p.Owes 3 (n - 0xF0) (if n = 0xF0 then 0x90 else 0x80)
        (if n = 0xF4 then 0x8F else 0xBF) := by
  refine ⟨⟨pos, [n.toUInt8], 3, n - 0xF0, if n = 0xF0 then 0x90 else 0x80,
    if n = 0xF4 then 0x8F else 0xBF, false⟩, ?_, rfl, rfl, rfl, rfl⟩
  unfold start
  simp only [toNat_toUInt8 (show n < 0x100 by omega)]
  rw [if_neg (by omega), if_neg (by omega), if_neg (by omega), if_neg (by omega),
    if_neg (by omega), if_neg (by omega)]
  by_cases h0 : n = 0xF0
  · simp [h0]
  · by_cases h4 : n = 0xF4
    · simp [h4]
    · simp [h0, h4, show n < 0xF4 by omega]

/-! ## Octets after the first -/

theorem scan_start {pos : Nat} {b : UInt8} {p : Pending} {rest : Octets}
    (h : start admitted pos b = .pending p) :
    scan admitted none pos (b :: rest) = scan admitted (some p) (pos + 1) rest := by
  rw [scan, scan.fresh, h]
  rfl

theorem Pending.Owes.admits {p : Pending} {owed bits low high n : Nat}
    (h : p.Owes owed bits low high) (hn : n < 0x100) (hrange : low ≤ n ∧ n ≤ high) :
    p.Admits n.toUInt8 ∧ p.bitsWith n.toUInt8 = bits * 0x40 + (n - 0x80) := by
  unfold Pending.Admits Pending.bitsWith
  rw [toNat_toUInt8 hn, h.low, h.high, h.bits]
  exact ⟨hrange, rfl⟩

/-- The last octet that a sequence is owed completes it. -/
theorem scan_last {p : Pending} {bits low high pos n : Nat} {rest : Octets}
    (h : p.Owes 1 bits low high) (hn : n < 0x100) (hrange : low ≤ n ∧ n ≤ high) :
    scan admitted (some p) pos (n.toUInt8 :: rest)
      = .point (CodePoint.ofNat (bits * 0x40 + (n - 0x80)))
        :: scan admitted none (pos + 1) rest := by
  obtain ⟨hadmits, hbits⟩ := h.admits hn hrange
  rw [scan, if_pos hadmits, if_pos h.owed.le, hbits]

/-- Any other octet adds its bits to the sequence. -/
theorem scan_more (pos : Nat) (rest : Octets) {p : Pending} {owed bits low high n : Nat}
    (h : p.Owes (owed + 2) bits low high) (hn : n < 0x100) (hrange : low ≤ n ∧ n ≤ high) :
    ∃ q : Pending, q.Owes (owed + 1) (bits * 0x40 + (n - 0x80)) 0x80 0xBF
      ∧ scan admitted (some p) pos (n.toUInt8 :: rest) = scan admitted (some q) (pos + 1) rest := by
  obtain ⟨hadmits, hbits⟩ := h.admits hn hrange
  refine ⟨p.push n.toUInt8, ⟨?_, hbits, rfl, rfl⟩, ?_⟩
  · show p.owed - 1 = owed + 1
    rw [h.owed]
    rfl
  · rw [scan, if_pos hadmits, if_neg (by rw [h.owed]; omega)]

/-! ## Code points and texts -/

/-- The octets of a code point are read as that code point. -/
theorem scan_encodePoint {c : CodePoint} (hc : c.isSurrogate = false) (pos : Nat) (rest : Octets) :
    ∃ pos', scan admitted none pos (encodePoint c ++ rest)
      = .point c :: scan admitted none pos' rest := by
  have hlt := c.isLt
  have hsurrogate : ¬(0xD800 ≤ c.val ∧ c.val ≤ 0xDFFF) := by
    rw [← CodePoint.isSurrogate_iff, hc]
    exact Bool.false_ne_true
  have hpoint {n : Nat} (h : n = c.val) : CodePoint.ofNat n = c := h ▸ CodePoint.ofNat_val c
  unfold encodePoint
  simp only
  split
  · next h =>
    refine ⟨pos + 1, ?_⟩
    rw [List.singleton_append, scan, scan.fresh, start_one h]
    exact congrArg (Item.point · :: _) (hpoint rfl)
  split
  · obtain ⟨p, hstart, hp⟩ := start_two pos (n := 0xC0 + c.val / 0x40) (by omega) (by omega)
    refine ⟨pos + 2, ?_⟩
    simp only [List.cons_append, List.nil_append]
    rw [scan_start hstart, scan_last hp (by omega) (by omega), hpoint (by omega)]
  split
  · obtain ⟨p, hstart, hp⟩ := start_three pos (n := 0xE0 + c.val / 0x1000) (by omega)
      (by omega)
    obtain ⟨q, hq, hmore⟩ := scan_more (pos + 1) ((0x80 + c.val % 0x40).toUInt8 :: rest)
      (n := 0x80 + c.val / 0x40 % 0x40) hp (by omega) (by split <;> split <;> omega)
    refine ⟨pos + 3, ?_⟩
    simp only [List.cons_append, List.nil_append]
    rw [scan_start hstart, hmore, scan_last hq (by omega) (by omega), hpoint (by omega)]
  · obtain ⟨p, hstart, hp⟩ := start_four pos (n := 0xF0 + c.val / 0x40000) (by omega)
      (by omega)
    obtain ⟨q, hq, hmore⟩ := scan_more (pos + 1)
      ((0x80 + c.val / 0x40 % 0x40).toUInt8 :: (0x80 + c.val % 0x40).toUInt8 :: rest)
      (n := 0x80 + c.val / 0x1000 % 0x40) hp
      (by omega) (by split <;> split <;> omega)
    obtain ⟨q', hq', hmore'⟩ := scan_more (pos + 2) ((0x80 + c.val % 0x40).toUInt8 :: rest)
      (n := 0x80 + c.val / 0x40 % 0x40) hq (by omega) (by omega)
    refine ⟨pos + 4, ?_⟩
    simp only [List.cons_append, List.nil_append]
    rw [scan_start hstart, hmore, hmore', scan_last hq' (by omega) (by omega), hpoint (by omega)]

theorem scan_encode {t : Text} (h : t.NoSurrogates) (pos : Nat) :
    scan admitted none pos (encode t) = t.map Item.point := by
  induction t generalizing pos with
  | nil =>
    show scan admitted none pos [] = []
    rw [scan]
  | cons c t ih =>
    obtain ⟨pos', hscan⟩ := @scan_encodePoint admitted c (h c List.mem_cons_self) pos (encode t)
    show scan admitted none pos (encodePoint c ++ encode t) = .point c :: t.map Item.point
    rw [hscan, ih (fun d hd => h d (List.mem_cons_of_mem c hd)) pos']

theorem lossy_map_point (t : Text) : Item.lossy (t.map Item.point) = t := by
  rw [Item.lossy, List.map_map]
  exact List.map_id t

theorem strict_map_point (t : Text) : Item.strict (t.map Item.point) = .ok t := by
  induction t with
  | nil => rfl
  | cons c t ih =>
    rw [List.map_cons, Item.strict, ih]
    rfl

/-- A text without surrogates is decoded from its octets. -/
theorem decodeLossy_encode {t : Text} (h : t.NoSurrogates) : decodeLossy (encode t) = t := by
  rw [decodeLossy, scan_encode h, lossy_map_point]

theorem decodeStrict_encode {t : Text} (h : t.NoSurrogates) : decode (encode t) = .ok t := by
  rw [decode, scan_encode h, strict_map_point]

theorem decodeWithSurrogates_encode {t : Text} (h : t.NoSurrogates) :
    decodeWithSurrogates (encode t) = .ok t := by
  rw [decodeWithSurrogates, scan_encode h, strict_map_point]

/-! ## Something is decoded -/

theorem scan_pending_ne_nil (p : Pending) (pos : Nat) (b : Octets) :
    scan false (some p) pos b ≠ [] := by
  induction b generalizing p pos with
  | nil =>
    rw [scan]
    exact List.cons_ne_nil _ _
  | cons x b ih =>
    rw [scan]
    split
    · split
      · exact List.cons_ne_nil _ _
      · exact ih _ _
    · rw [scan.fresh]
      exact List.cons_ne_nil _ _

theorem decodeLossy_ne_nil {b : Octets} (h : b ≠ []) : decodeLossy b ≠ [] := by
  obtain ⟨x, b, rfl⟩ := List.exists_cons_of_ne_nil h
  unfold decodeLossy Item.lossy
  rw [ne_eq, List.map_eq_nil_iff, scan, scan.fresh]
  split
  · exact List.cons_ne_nil _ _
  · exact scan_pending_ne_nil _ _ _
  · exact List.cons_ne_nil _ _

/-! ## No surrogates are decoded -/

/-- The least number that the sequence can be completed to. -/
def Pending.least (p : Pending) : Nat :=
  (p.bits * 0x40 + (p.low - 0x80)) * 0x40 ^ (p.owed - 1)

/-- A number beyond all that the sequence can be completed to. -/
def Pending.bound (p : Pending) : Nat :=
  (p.bits * 0x40 + (p.high - 0x80) + 1) * 0x40 ^ (p.owed - 1)

/-- The sequence cannot be completed to a surrogate. -/
def Pending.Avoids (p : Pending) : Prop := p.bound ≤ 0xD800 ∨ 0xE000 ≤ p.least

theorem isSurrogate_ofNat {n : Nat} (h : n < 0xD800 ∨ 0xE000 ≤ n) :
    (CodePoint.ofNat n).isSurrogate = false := by
  rw [← Bool.not_eq_true, CodePoint.isSurrogate_iff]
  by_cases hn : n < 0x110000
  · rw [CodePoint.val_ofNat hn]
    omega
  · rw [CodePoint.ofNat, dif_neg hn]
    decide

theorem start_point {pos n : Nat} {b : UInt8} (h : start false pos b = .point n) : n < 0x80 := by
  unfold start at h
  simp only at h
  split at h
  · next hb =>
    obtain rfl := Start.point.inj h
    exact hb
  · repeat' split at h
    all_goals cases h

theorem start_avoids {pos : Nat} {b : UInt8} {p : Pending} (h : start false pos b = .pending p) :
    p.Avoids := by
  unfold start at h
  simp only [Bool.false_eq_true, if_false] at h
  repeat' split at h
  all_goals cases h
  all_goals
    simp only [Pending.Avoids, Pending.bound, Pending.least]
    omega

theorem Pending.Avoids.complete {p : Pending} {b : UInt8} (h : p.Avoids) (hb : p.Admits b)
    (ho : p.owed ≤ 1) : (CodePoint.ofNat (p.bitsWith b)).isSurrogate = false := by
  have hpow : 0x40 ^ (p.owed - 1) = 1 := by rw [Nat.sub_eq_zero_of_le ho, pow_zero]
  unfold Avoids bound least at h
  rw [hpow, Nat.mul_one, Nat.mul_one] at h
  unfold Admits at hb
  refine isSurrogate_ofNat ?_
  unfold bitsWith
  omega

theorem Pending.Avoids.push {p : Pending} {b : UInt8} (h : p.Avoids) (hb : p.Admits b)
    (ho : ¬p.owed ≤ 1) : (p.push b).Avoids := by
  obtain ⟨k, hk⟩ : ∃ k, p.owed = k + 2 := ⟨p.owed - 2, by omega⟩
  unfold Admits at hb
  have hpow : 0x40 ^ (p.owed - 1) = 0x40 * 0x40 ^ (p.owed - 1 - 1) := by
    rw [hk]
    exact pow_succ' 0x40 k
  have hleast : p.least ≤ (p.push b).least := by
    have hle : (p.bits * 0x40 + (p.low - 0x80)) * 0x40
        ≤ p.bitsWith b * 0x40 + (0x80 - 0x80) := by
      unfold bitsWith
      omega
    calc p.least = (p.bits * 0x40 + (p.low - 0x80)) * 0x40 * 0x40 ^ (p.owed - 1 - 1) := by
          rw [least, hpow, ← Nat.mul_assoc]
      _ ≤ (p.push b).least := Nat.mul_le_mul_right _ hle
  have hbound : (p.push b).bound ≤ p.bound := by
    have hle : p.bitsWith b * 0x40 + (0xBF - 0x80) + 1
        ≤ (p.bits * 0x40 + (p.high - 0x80) + 1) * 0x40 := by
      unfold bitsWith
      omega
    calc (p.push b).bound
        = (p.bitsWith b * 0x40 + (0xBF - 0x80) + 1) * 0x40 ^ (p.owed - 1 - 1) := by
          simp only [bound, Pending.push]
      _ ≤ (p.bits * 0x40 + (p.high - 0x80) + 1) * 0x40 * 0x40 ^ (p.owed - 1 - 1) :=
          Nat.mul_le_mul_right _ hle
      _ = p.bound := by rw [bound, hpow, ← Nat.mul_assoc]
  exact h.imp hbound.trans fun h => h.trans hleast

theorem lossy_bad_noSurrogates (e : DecodeError) {items : List Item}
    (h : Text.NoSurrogates (Item.lossy items)) :
    Text.NoSurrogates (Item.lossy (.bad e :: items)) :=
  List.forall_mem_cons.mpr ⟨isSurrogate_ofNat (.inr (by decide)), h⟩

/-- An octet that begins a code point leads to no surrogate, if the octets behind it do not. -/
theorem lossy_fresh_noSurrogates {b : Octets} (pos : Nat) (x : UInt8)
    (hnone : Text.NoSurrogates (Item.lossy (scan false none (pos + 1) b)))
    (hsome : ∀ q : Pending, q.Avoids →
      Text.NoSurrogates (Item.lossy (scan false (some q) (pos + 1) b))) :
    Text.NoSurrogates (Item.lossy (scan.fresh false none pos x b)) := by
  rw [scan.fresh, Option.toList_none, List.nil_append]
  split
  · next n hn =>
    have hlt := start_point hn
    exact List.forall_mem_cons.mpr ⟨isSurrogate_ofNat (.inl (by omega)), hnone⟩
  · next q hq => exact hsome q (start_avoids hq)
  · exact lossy_bad_noSurrogates _ hnone

theorem fresh_some (before : Item) (pos : Nat) (x : UInt8) (b : Octets) :
    scan.fresh false (some before) pos x b = before :: scan.fresh false none pos x b := by
  rw [scan.fresh, scan.fresh]
  rfl

/-- Between code points, or in a sequence that cannot be completed to a surrogate, none is read. -/
theorem lossy_scan_noSurrogates (pos : Nat) (b : Octets) :
    Text.NoSurrogates (Item.lossy (scan false none pos b))
      ∧ ∀ q : Pending, q.Avoids → Text.NoSurrogates (Item.lossy (scan false (some q) pos b)) := by
  have hnil : Text.NoSurrogates (Item.lossy []) := fun c hc => absurd hc List.not_mem_nil
  induction b generalizing pos with
  | nil =>
    constructor
    · rw [scan]
      exact hnil
    · intro q _
      rw [scan]
      exact lossy_bad_noSurrogates _ hnil
  | cons x b ih =>
    obtain ⟨hnone, hsome⟩ := ih (pos + 1)
    have hfresh := lossy_fresh_noSurrogates pos x hnone hsome
    constructor
    · rw [scan]
      exact hfresh
    · intro q hq
      rw [scan]
      split
      · next hx =>
        split
        · next ho => exact List.forall_mem_cons.mpr ⟨hq.complete hx ho, hnone⟩
        · next ho => exact hsome _ (hq.push hx ho)
      · rw [fresh_some]
        exact lossy_bad_noSurrogates _ hfresh

theorem decodeLossy_noSurrogates (b : Octets) : (decodeLossy b).NoSurrogates :=
  (lossy_scan_noSurrogates 0 b).1

theorem eq_map_point_of_strict {items : List Item} {t : Text} (h : Item.strict items = .ok t) :
    items = t.map Item.point := by
  induction items generalizing t with
  | nil =>
    cases h
    rfl
  | cons item items ih =>
    cases item with
    | point c =>
      obtain ⟨r, hr, rfl⟩ := map_eq_ok.mp h
      rw [List.map_cons, ih hr]
    | bad e => cases h

/-- What is decoded without a fault has no surrogates either. -/
theorem decodeStrict_noSurrogates {b : Octets} {t : Text} (h : decode b = .ok t) :
    t.NoSurrogates := by
  have hlossy := decodeLossy_noSurrogates b
  rwa [decodeLossy, eq_map_point_of_strict h, lossy_map_point] at hlossy

end Registry.Utf8
