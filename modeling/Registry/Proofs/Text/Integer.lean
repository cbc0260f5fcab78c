import Mathlib.Data.List.TakeWhile
import Registry.Proofs.Text.Digits
import Registry.Text.Integer

/-!
# Integers read back

An integer is read back from its decimal text unless it has too many digits
(`Text.readInteger_ofInt`), and none that is read has too many (`Text.length_of_readInteger`).
-/

namespace Registry.Text

/-! ## The digits of an integer that is written -/

theorem digitOf?_of_isDigit {c : CodePoint} (h : c.isDigit = true) :
    digitOf? .decimal c = some c.digitValue := by
  have hrange := CodePoint.isDigit_iff.mp h
  have hvalue : c.decimalValue? = some c.digitValue := by
    unfold CodePoint.decimalValue? CodePoint.decimalZeros
    rw [List.find?_cons_of_pos (by simp; omega)]
    rfl
  have hlt : c.digitValue < Base.decimal.size := by
    unfold CodePoint.digitValue
    show c.val - 0x30 < 10
    omega
  rw [digitOf?, hvalue, Option.some_or, Option.filter_some, if_pos (by simpa using hlt)]

theorem digitsOf?_of_allDigits {t : Text} (h : AllDigits t) (hne : t ≠ []) :
    digitsOf? .decimal t = some (t.map CodePoint.digitValue) := by
  induction t with
  | nil => exact absurd rfl hne
  | cons c t ih =>
    have hc := digitOf?_of_isDigit (h c List.mem_cons_self)
    cases t with
    | nil => rw [digitsOf?, hc]; rfl
    | cons d t =>
      have hd : d.is '_' = false := by
        have := CodePoint.isDigit_iff.mp (h d (by simp))
        rw [CodePoint.is_eq_false_iff]
        show d.val ≠ 0x5F
        omega
      rw [digitsOf?, hc, Option.bind_some, hd, if_neg Bool.false_ne_true,
        ih h.of_cons (List.cons_ne_nil d t)]
      rfl

theorem isWhiteSpace_of_isDigit {c : CodePoint} (h : c.isDigit = true) :
    c.isWhiteSpace = false := by
  have := CodePoint.isDigit_iff.mp h
  rw [← Bool.not_eq_true]
  simp only [CodePoint.isWhiteSpace, Bool.or_eq_true, Bool.and_eq_true, decide_eq_true_eq,
    beq_iff_eq]
  omega

theorem trim_ofInt (n : Int) : (ofInt n).trim CodePoint.isWhiteSpace = ofInt n := by
  have hall : ∀ c ∈ ofInt n, c.isWhiteSpace = false := by
    have hdigits : ∀ c ∈ ofNat n.natAbs, c.isWhiteSpace = false := fun c hc =>
      isWhiteSpace_of_isDigit (ofNat_allDigits _ c hc)
    unfold ofInt
    split
    · exact List.forall_mem_cons.mpr ⟨rfl, hdigits⟩
    · exact hdigits
  exact trim_eq_self (fun c hc => hall c (List.mem_of_mem_head? hc))
    fun c hc => hall c (List.mem_of_getLast? hc)

/-- An integer that has not too many digits is read back from its text. -/
theorem readInteger_ofInt {n : Int} (h : (ofNat n.natAbs).length ≤ integerLengthLimit) :
    readInteger .decimal (ofInt n) = .ok n := by
  have hdigits := ofNat_allDigits n.natAbs
  have hrun : ((ofNat n.natAbs).takeWhile fun c => c.is '_' || (digitOf? .decimal c).isSome)
      = ofNat n.natAbs := by
    refine List.takeWhile_eq_self_iff.mpr fun c hc => ?_
    rw [digitOf?_of_isDigit (hdigits c hc), Option.isSome_some, Bool.or_true]
  have hread : digitsOf? .decimal (ofNat n.natAbs)
      = some ((ofNat n.natAbs).map CodePoint.digitValue) :=
    digitsOf?_of_allDigits hdigits (ofNat_ne_nil _)
  have hvalue : ((ofNat n.natAbs).map CodePoint.digitValue).foldl
      (fun n d => Base.decimal.size * n + d) 0 = n.natAbs := by
    rw [List.foldl_map]
    exact digitsValue_ofNat n.natAbs
  have hshort : ¬(True
      ∧ integerLengthLimit < ((ofNat n.natAbs).map CodePoint.digitValue).length) := by
    rw [List.length_map]
    omega
  unfold readInteger
  rw [trim_ofInt]
  by_cases hn : n < 0
  · have e : ofInt n = CodePoint.ofChar '-' :: ofNat n.natAbs := if_pos hn
    simp only [e, show (CodePoint.ofChar '-').is '-' = true from rfl, if_true, dropMark,
      Base.letter?, hrun, hread, lt_irrefl, if_false, hvalue]
    rw [if_neg hshort, Int.ofNat_natAbs_of_nonpos hn.le, neg_neg]
  · have e : ofInt n = ofNat n.natAbs := if_neg hn
    obtain ⟨c, t, ht⟩ := List.exists_cons_of_ne_nil (ofNat_ne_nil n.natAbs)
    have hc := CodePoint.isDigit_iff.mp (hdigits c (ht ▸ List.mem_cons_self))
    have hminus : c.is '-' = false := CodePoint.is_eq_false_iff.mpr (by
      show c.val ≠ 0x2D
      omega)
    have hplus : c.is '+' = false := CodePoint.is_eq_false_iff.mpr (by
      show c.val ≠ 0x2B
      omega)
    rw [ht] at e hrun hread hvalue hshort
    simp only [e, hminus, hplus, Bool.false_eq_true, if_false, dropMark,
      Base.letter?, hrun, hread, lt_irrefl, hvalue]
    rw [if_neg hshort, Int.natAbs_of_nonneg (by omega)]

/-! ## The digits of an integer that is read -/

theorem digitOf?_lt {base : Base} {c : CodePoint} {d : Nat} (h : digitOf? base c = some d) :
    d < base.size := by
  simpa using (Option.filter_eq_some_iff.mp h).2

theorem digitsOf?_bounded {base : Base} {t : Text} {ns : List Nat}
    (h : digitsOf? base t = some ns) : ns ≠ [] ∧ ∀ d ∈ ns, d < base.size := by
  have hcons {n : Nat} {more : List Nat} (hn : n < base.size)
      (hmore : ∀ d ∈ more, d < base.size) : n :: more ≠ [] ∧ ∀ d ∈ n :: more, d < base.size :=
    ⟨List.cons_ne_nil n more, List.forall_mem_cons.mpr ⟨hn, hmore⟩⟩
  induction t using digitsOf?.induct generalizing ns with
  | case1 => exact absurd h (Option.some_ne_none ns).symm
  | case2 c =>
    obtain ⟨n, hn, rfl⟩ := Option.map_eq_some_iff.mp h
    exact hcons (digitOf?_lt hn) fun d hd => absurd hd List.not_mem_nil
  | case3 c d more ihMore ihRest =>
    rw [digitsOf?] at h
    obtain ⟨n, hn, h⟩ := Option.bind_eq_some_iff.mp h
    split at h
    · obtain ⟨ms, hms, rfl⟩ := Option.map_eq_some_iff.mp h
      exact hcons (digitOf?_lt hn) (ihMore hms).2
    · obtain ⟨ms, hms, rfl⟩ := Option.map_eq_some_iff.mp h
      exact hcons (digitOf?_lt hn) (ihRest hms).2

theorem foldl_lt {base : Nat} {ns : List Nat} (h : ∀ d ∈ ns, d < base) (n : Nat) :
    ns.foldl (fun n d => base * n + d) n < (n + 1) * base ^ ns.length := by
  induction ns generalizing n with
  | nil => simp
  | cons d ns ih =>
    have hd := h d List.mem_cons_self
    calc ns.foldl (fun n d => base * n + d) (base * n + d)
        < (base * n + d + 1) * base ^ ns.length :=
          ih (fun e he => h e (List.mem_cons_of_mem d he)) _
      _ ≤ (base * n + base) * base ^ ns.length := Nat.mul_le_mul_right _ (by omega)
      _ = (n + 1) * base ^ (ns.length + 1) := by ring

theorem natAbs_signed (negative : Bool) (n : Nat) :
    (if negative = true then -(n : Int) else n).natAbs = n := by
  cases negative with
  | true => exact Int.natAbs_neg n
  | false => rfl

/-- An integer that is read has not too many digits. -/
theorem length_of_readInteger {t : Text} {n : Int} (h : readInteger .decimal t = .ok n) :
    (ofNat n.natAbs).length ≤ integerLengthLimit := by
  unfold readInteger at h
  simp only at h
  split at h
  · cases h
  next ns hns =>
  obtain ⟨-, h⟩ | ⟨hshort, h⟩ := ite_eq_iff.mp h
  · cases h
  obtain ⟨-, h⟩ | ⟨-, h⟩ := ite_eq_iff.mp h
  · cases h
  obtain ⟨hne, hbound⟩ := digitsOf?_bounded hns
  have hlt := foldl_lt hbound 0
  have hn : n.natAbs = ns.foldl (fun n d => Base.decimal.size * n + d) 0 := by
    rw [← Except.ok.inj h]
    exact natAbs_signed _ _
  rw [← hn, Nat.zero_add, Nat.one_mul] at hlt
  have hle := (length_ofNat_le_iff (List.length_pos_iff.mpr hne)).mpr hlt
  have hlimit : ns.length ≤ integerLengthLimit :=
    Nat.le_of_not_lt fun hlong => hshort ⟨trivial, hlong⟩
  exact hle.trans hlimit

end Registry.Text
