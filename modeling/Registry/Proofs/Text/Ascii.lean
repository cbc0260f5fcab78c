import Mathlib.Data.List.TakeWhile
import Registry.Binary64.Shortest
import Registry.Identifier
import Registry.Json.Writer
import Registry.Proofs.Text.Digits
import Registry.Text.Encoding.Wide
import Registry.Text.Surrogate

/-!
# Texts in ASCII

What the registry writes itself is printable ASCII: numbers, escaped strings and generated ids. Such
a text has no surrogates, so it can be bound (`EncodeError.of?_eq_none_iff`) and joining surrogates
leaves it as it is (`Utf16.joinSurrogates_eq_self`).
-/

namespace Registry

namespace Text

/-- Every code point is below 128. -/
def IsAscii (t : Text) : Prop := ∀ c ∈ t, c.val < 0x80

/-- Every code point is the space or a visible character of ASCII. -/
def IsPrintable (t : Text) : Prop := ∀ c ∈ t, 0x20 ≤ c.val ∧ c.val ≤ 0x7E

/-- No code point is a surrogate. -/
def NoSurrogates (t : Text) : Prop := ∀ c ∈ t, c.isSurrogate = false

instance (t : Text) : Decidable (IsPrintable t) := inferInstanceAs (Decidable (∀ c ∈ t, _))

instance (t : Text) : Decidable (NoSurrogates t) := inferInstanceAs (Decidable (∀ c ∈ t, _))

theorem IsPrintable.isAscii {t : Text} (h : IsPrintable t) : IsAscii t := by
  intro c hc
  have := h c hc
  omega

theorem IsPrintable.noSurrogates {t : Text} (h : IsPrintable t) : NoSurrogates t := by
  intro c hc
  have := h c hc
  rw [← Bool.not_eq_true, CodePoint.isSurrogate_iff]
  omega

theorem IsPrintable.append {s t : Text} (hs : IsPrintable s) (ht : IsPrintable t) :
    IsPrintable (s ++ t) := by
  intro c hc
  rcases List.mem_append.mp hc with h | h
  · exact hs c h
  · exact ht c h

theorem IsPrintable.cons {c : CodePoint} {t : Text} (hc : 0x20 ≤ c.val ∧ c.val ≤ 0x7E)
    (ht : IsPrintable t) : IsPrintable (c :: t) :=
  List.forall_mem_cons.mpr ⟨hc, ht⟩

theorem IsPrintable.of_subset {s t : Text} (ht : IsPrintable t) (h : ∀ c ∈ s, c ∈ t) :
    IsPrintable s :=
  fun c hc => ht c (h c hc)

theorem IsPrintable.take {t : Text} (h : IsPrintable t) (n : Nat) : IsPrintable (t.take n) :=
  h.of_subset fun _ => List.mem_of_mem_take

theorem IsPrintable.drop {t : Text} (h : IsPrintable t) (n : Nat) : IsPrintable (t.drop n) :=
  h.of_subset fun _ => List.mem_of_mem_drop

theorem AllDigits.isPrintable {t : Text} (h : AllDigits t) : IsPrintable t := by
  intro c hc
  have := CodePoint.isDigit_iff.mp (h c hc)
  omega

theorem padded_isPrintable (width n : Nat) : IsPrintable (padded width n) :=
  (padded_allDigits width n).isPrintable

theorem isPrintable_flatMap {α : Type} {f : α → Text} {l : List α}
    (h : ∀ a ∈ l, IsPrintable (f a)) : IsPrintable (l.flatMap f) := by
  intro c hc
  obtain ⟨a, ha, hca⟩ := List.mem_flatMap.mp hc
  exact h a ha c hca

/-! ## Numbers -/

theorem ofInt_isPrintable (n : Int) : IsPrintable (ofInt n) := by
  have h := (ofNat_allDigits n.natAbs).isPrintable
  unfold ofInt
  split
  · exact h.cons (by decide)
  · exact h

theorem ofHexDigit_printable :
    ∀ d < 16, 0x20 ≤ (CodePoint.ofHexDigit d).val ∧ (CodePoint.ofHexDigit d).val ≤ 0x7E := by
  decide

theorem hex_isPrintable (width n : Nat) : IsPrintable (hex width n) := by
  induction width generalizing n with
  | zero => exact fun c hc => absurd hc List.not_mem_nil
  | succ width ih =>
    rw [hex]
    exact (ih (n / 16)).append
      (IsPrintable.cons (ofHexDigit_printable _ (by omega)) (by simp [IsPrintable]))

theorem dropEndZeros_isPrintable {t : Text} (h : IsPrintable t) : IsPrintable (dropEndZeros t) := by
  refine h.of_subset fun c hc => ?_
  rw [dropEndZeros, List.mem_reverse] at hc
  exact List.mem_reverse.mp ((List.dropWhile_sublist _).mem hc)

theorem exponentText_isPrintable (e : Int) : IsPrintable (Numeral.exponentText e) := by
  refine IsPrintable.append ?_ (padded_allDigits 2 _).isPrintable
  split <;> decide

theorem layout_isPrintable {ds : Text} (h : IsPrintable ds) (point : Int) :
    IsPrintable (Numeral.full.layout ds point) := by
  have hz (k : Nat) : IsPrintable (zeros k) := (allDigits_zeros k).isPrintable
  unfold Numeral.layout
  simp only [Numeral.full, Nat.zero_sub, zeros, List.replicate_zero, List.append_nil]
  split
  · split
    · exact (IsPrintable.append (by decide) (hz _)).append h
    split
    · exact (h.append (hz _)).append (by decide)
    · exact ((h.take _).append (by decide)).append (h.drop _)
  · refine ((h.take 1).append ?_).append (exponentText_isPrintable _)
    unfold Numeral.behindPoint
    split
    · decide
    · exact (h.drop 1).cons (by decide)

theorem shortestText_isPrintable (m : Magnitude) : IsPrintable (m.shortestText Numeral.full) := by
  unfold Magnitude.shortestText
  split
  · decide
  · exact layout_isPrintable (dropEndZeros_isPrintable (ofNat_allDigits _).isPrintable) _

theorem binary64Text_isPrintable (x : Binary64) : IsPrintable x.text := by
  have hs (negative : Bool) : IsPrintable (Binary64.signText negative) := by
    cases negative <;> decide
  cases x with
  | nan _ => exact (by decide : IsPrintable "nan")
  | infinite negative => exact (hs negative).append (by decide)
  | finite negative m => exact (hs negative).append (shortestText_isPrintable m)

/-! ## Identifiers -/

theorem octetsHex_isPrintable (b : Octets) : IsPrintable (Octets.hex b) :=
  isPrintable_flatMap fun x _ => hex_isPrintable 2 x.toNat

theorem generate_isPrintable {tag : Text} (h : IsPrintable tag) (random : Octets) :
    IsPrintable (Identifier.generate tag random) := by
  have hx := octetsHex_isPrintable
  have hh : IsPrintable (ofString "-") := by decide
  unfold Identifier.generate Identifier.uuidText
  refine (h.append (by decide)).append ?_
  exact ((((((((hx _).append hh).append (hx _)).append hh).append (hx _)).append hh).append
    (hx _)).append hh).append (hx _)

end Text

/-! ## Escaped strings -/

namespace Json

theorem hexEscape_isPrintable (n : Nat) : Text.IsPrintable (hexEscape n) :=
  Text.IsPrintable.append (by decide) (Text.hex_isPrintable 4 n)

theorem escapePoint_isPrintable (c : CodePoint) : Text.IsPrintable (escapePoint c) := by
  unfold escapePoint
  iterate 7
    split
    · decide
  split
  · next h => exact Text.IsPrintable.cons (by omega) (by simp [Text.IsPrintable])
  split
  · exact hexEscape_isPrintable _
  · exact (hexEscape_isPrintable _).append (hexEscape_isPrintable _)

theorem writeString_isPrintable (t : Text) : Text.IsPrintable (writeString t) :=
  (Text.IsPrintable.append (by decide)
    (Text.isPrintable_flatMap fun c _ => escapePoint_isPrintable c)).append
    (by decide)

end Json

/-! ## Surrogates -/

/-- No high surrogate stands directly before a low one. -/
def Text.Unpaired (t : Text) : Prop :=
  t.IsChain fun a b => (a.isHighSurrogate && b.isLowSurrogate) = false

theorem Text.NoSurrogates.unpaired {t : Text} (h : Text.NoSurrogates t) : Text.Unpaired t := by
  induction t with
  | nil => exact .nil
  | cons a t ih =>
    cases t with
    | nil => exact .singleton a
    | cons b t =>
      refine .cons_cons ?_ (ih fun c hc => h c (List.mem_cons_of_mem a hc))
      have ha := h a (by simp)
      simp only [CodePoint.isSurrogate, CodePoint.isHighSurrogate, Bool.and_eq_false_iff,
        decide_eq_false_iff_not] at ha ⊢
      omega

theorem Utf16.joinSurrogates_eq_self {t : Text} (h : Text.Unpaired t) :
    Utf16.joinSurrogates t = t := by
  induction t with
  | nil => rfl
  | cons a t ih =>
    cases t with
    | nil => rfl
    | cons b rest =>
      have h := List.isChain_cons_cons.mp h
      rw [Utf16.joinSurrogates, h.1, if_neg Bool.false_ne_true, ih h.2]

theorem EncodeError.of?_eq_none_iff {t : Text} : EncodeError.of? t = none ↔ t.NoSurrogates := by
  have hdrop : t.drop (t.takeWhile fun c => !c.isSurrogate).length
      = t.dropWhile fun c => !c.isSurrogate := by
    have h := List.takeWhile_append_dropWhile (p := fun c => !c.isSurrogate) (l := t)
    exact (congrArg (List.drop _) h.symm).trans List.drop_left
  have hnil : (t.dropWhile fun c => !c.isSurrogate) = [] ↔ t.NoSurrogates := by
    rw [List.dropWhile_eq_nil_iff]
    simp [Text.NoSurrogates]
  unfold EncodeError.of?
  simp only [hdrop, ← hnil]
  cases t.dropWhile fun c => !c.isSurrogate with
  | nil => simp
  | cons c rest => simp

end Registry
