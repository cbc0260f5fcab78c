import Mathlib.Data.List.TakeWhile
import Registry.DateTime.Iso
import Registry.Proofs.DateTime.Instant
import Registry.Proofs.Text.Ascii
import Registry.Table

/-!
# Stored dates

A reading is stored as a text of 26 code points, all of them ASCII. It is read back as the reading
without offset (`Iso.read_storedText`), it is no number, so a column of dates keeps it as a text
(`Cell.convert_storedText`), and the order of such texts is the order of the instants
(`storedText_le_iff`).
-/

namespace Registry

/-! ## The fields of a stored date -/

def timeText (t : TimeOfDay) : Text :=
  Text.padded 2 t.hour ++ CodePoint.ofChar ':' :: (Text.padded 2 t.minute
    ++ CodePoint.ofChar ':' :: (Text.padded 2 t.second
      ++ CodePoint.ofChar '.' :: Text.padded 6 t.microsecond))

theorem storedText_eq (d : Date) (t : TimeOfDay) :
    storedText d t = Text.padded 4 d.year ++ CodePoint.ofChar '-' :: (Text.padded 2 d.month
      ++ CodePoint.ofChar '-' :: (Text.padded 2 d.day ++ CodePoint.ofChar ' ' :: timeText t)) := by
  simp [storedText, Date.text, TimeOfDay.clockText, timeText, Text.ofString]

theorem Date.year_lt (d : Date) : d.year < 10 ^ 4 := by
  have := d.valid
  omega

theorem Date.month_lt (d : Date) : d.month < 10 ^ 2 := by
  have := d.valid
  omega

theorem Date.day_lt (d : Date) : d.day < 10 ^ 2 := by
  have h : daysInMonth d.year d.month ≤ 31 := by
    unfold daysInMonth
    split
    · split <;> decide
    · split <;> decide
  have := d.valid
  omega

theorem length_timeText (t : TimeOfDay) : (timeText t).length = 15 := by
  have := t.valid
  have hh := Text.length_padded (w := 2) (n := t.hour) (by decide) (by omega)
  have hm := Text.length_padded (w := 2) (n := t.minute) (by decide) (by omega)
  have hs := Text.length_padded (w := 2) (n := t.second) (by decide) (by omega)
  have hu := Text.length_padded (w := 6) (n := t.microsecond) (by decide) (by omega)
  simp only [timeText, List.length_append, List.length_cons, hh, hm, hs, hu]

/-- A stored date has 26 code points. -/
theorem length_storedText (d : Date) (t : TimeOfDay) : (storedText d t).length = 26 := by
  have hy := Text.length_padded (by decide) d.year_lt
  have hm := Text.length_padded (by decide) d.month_lt
  have hd := Text.length_padded (by decide) d.day_lt
  simp only [storedText_eq, List.length_append, List.length_cons, hy, hm, hd, length_timeText]

theorem timeText_isPrintable (t : TimeOfDay) : (timeText t).IsPrintable := by
  have h := Text.padded_isPrintable
  exact (h _ _).append (.cons (by decide) ((h _ _).append (.cons (by decide)
    ((h _ _).append (.cons (by decide) (h _ _))))))

theorem storedText_isPrintable (d : Date) (t : TimeOfDay) : (storedText d t).IsPrintable := by
  have h := Text.padded_isPrintable
  rw [storedText_eq]
  exact (h _ _).append (.cons (by decide) ((h _ _).append (.cons (by decide)
    ((h _ _).append (.cons (by decide) (timeText_isPrintable t))))))

/-! ## Other texts of dates -/

theorem Date.text_isPrintable (d : Date) : d.text.IsPrintable := by
  have h := Text.padded_isPrintable
  exact ((((h _ _).append (by decide)).append (h _ _)).append (by decide)).append (h _ _)

theorem TimeOfDay.clockText_isPrintable (t : TimeOfDay) : t.clockText.IsPrintable := by
  have h := Text.padded_isPrintable
  exact ((((h _ _).append (by decide)).append (h _ _)).append (by decide)).append (h _ _)

theorem Offset.text_isPrintable (o : Offset) : o.text.IsPrintable := by
  have h := Text.padded_isPrintable
  have hsign : (Text.ofString (if o.microseconds < 0 then "-" else "+")).IsPrintable := by
    split <;> decide
  refine Text.IsPrintable.append (Text.IsPrintable.append
    (((hsign.append (h _ _)).append (by decide)).append (h _ _)) ?_) ?_
  · split
    · decide
    · exact Text.IsPrintable.append (by decide) (h _ _)
  · split
    · decide
    · exact Text.IsPrintable.append (by decide) (h _ _)

theorem DateTime.spacedText_isPrintable (d : DateTime) : d.spacedText.IsPrintable := by
  refine Text.IsPrintable.append (Text.IsPrintable.append
    ((d.date.text_isPrintable.append (by decide)).append d.time.clockText_isPrintable) ?_) ?_
  · split
    · decide
    · exact Text.IsPrintable.append (by decide) (Text.padded_isPrintable _ _)
  · cases d.offset with
    | none => decide
    | some o => exact o.text_isPrintable

/-! ## Reading a stored date -/

namespace Iso

theorem takeDigits?_padded {w n : Nat} (hw : 0 < w) (hn : n < 10 ^ w) (r : Text) :
    takeDigits? w (Text.padded w n ++ r) = some (n, r) := by
  have hlen := Text.length_padded hw hn
  have htake : (Text.padded w n ++ r).take w = Text.padded w n := by
    rw [List.take_append_of_le_length hlen.ge, List.take_of_length_le hlen.le]
  have hdrop : (Text.padded w n ++ r).drop w = r := by
    rw [List.drop_append_of_le_length hlen.ge, List.drop_of_length_le hlen.le, List.nil_append]
  have hall : (Text.padded w n).all CodePoint.isDigit = true :=
    List.all_eq_true.mpr (Text.padded_allDigits w n)
  unfold takeDigits?
  rw [htake, hdrop, if_pos ⟨hlen, hall⟩, Text.digitsValue_padded]

theorem startsWith_padded {c : Char} {w n : Nat} {r : Text} (hc : (CodePoint.ofChar c).isDigit = false) :
    startsWith c (Text.padded w n ++ r) = false := by
  obtain ⟨x, t, ht⟩ := List.exists_cons_of_ne_nil
    (show Text.padded w n ≠ [] from List.append_ne_nil_of_right_ne_nil _ (Text.ofNat_ne_nil n))
  have hx : x.isDigit = true := Text.padded_allDigits w n x (by simp [ht])
  rw [ht]
  unfold startsWith
  rw [beq_eq_false_iff_ne]
  rintro ⟨⟩
  rw [hc] at hx
  cases hx

theorem octetText_eq_self {t : Text} (h : t.IsAscii) : octetText t = t := by
  induction t with
  | nil => rfl
  | cons c t ih =>
    have hc := h c (by simp)
    have hp : (Utf8.encodePoint c).map (fun b => CodePoint.ofNat b.toNat) = [c] := by
      unfold Utf8.encodePoint
      simp only [hc, if_true, List.map_cons, List.map_nil]
      have hn : c.val.toUInt8.toNat = c.val := by
        rw [Nat.toUInt8, UInt8.toNat_ofNat', Nat.mod_eq_of_lt (by omega)]
      rw [hn, CodePoint.ofNat_val]
    rw [octetText, Utf8.encode, List.flatMap_cons, List.map_append, hp]
    exact congrArg _ (ih fun d hd => h d (List.mem_cons_of_mem c hd))

theorem withoutSurrogate_eq_self {t : Text} (h : t.NoSurrogates) : withoutSurrogate t = t := by
  have hnone : ([7, 8, 10].find? fun i => t[i]?.any CodePoint.isSurrogate) = none := by
    rw [List.find?_eq_none]
    intro i _
    cases hi : t[i]? with
    | none => simp
    | some c => simp [h c (List.mem_of_getElem? hi)]
  rw [withoutSurrogate, hnone]

theorem separatorIndex?_storedText (d : Date) (t : TimeOfDay) :
    separatorIndex? (storedText d t) = some 10 := by
  have hy := Text.length_padded (by decide) d.year_lt
  have h4 : hasAt (storedText d t) 4 '-' = true := by
    rw [hasAt, storedText_eq, List.getElem?_append_right hy.le, hy]
    rfl
  have h5 : hasAt (storedText d t) 5 'W' = false := by
    unfold hasAt
    rw [storedText_eq, List.getElem?_append_right (by omega), hy, List.getElem?_cons_succ,
      ← List.head?_eq_getElem?]
    exact startsWith_padded rfl
  unfold separatorIndex?
  rw [length_storedText, h4, h5]
  rfl

theorem readDate?_storedText (d : Date) (t : TimeOfDay) :
    readDate? 10 (storedText d t) = some (d.year, d.month, d.day) := by
  rw [storedText_eq]
  unfold readDate?
  rw [takeDigits?_padded (by decide) d.year_lt]
  simp only [Option.bind_eq_bind, Option.bind_some, List.drop_succ_cons, List.drop_zero,
    show ∀ r, startsWith '-' (CodePoint.ofChar '-' :: r) = true from fun _ => rfl, if_true,
    startsWith_padded (c := 'W') rfl, takeDigits?_padded (by decide) d.month_lt,
    takeDigits?_padded (by decide) d.day_lt, Bool.false_eq_true, if_false, Bool.not_true,
    Bool.and_false]

/-- The clock that a stored time of day is read as. -/
def clockOf (t : TimeOfDay) : Clock := ⟨[t.hour, t.minute, t.second], t.microsecond, true⟩

theorem readClock?_colon {more n length : Nat} {colons : Option Bool} {fields : List Nat} {r : Text}
    (hn : n < 10 ^ 2) (hl : 3 < length) (hc : colons ≠ some false) :
    readClock? (more + 1) colons fields length (Text.padded 2 n ++ CodePoint.ofChar ':' :: r)
      = readClock? more (some true) (fields ++ [n]) (length - 3) r := by
  have hs : startsWith ':' (CodePoint.ofChar ':' :: r) = true := rfl
  have ht : colons.getD true = true := by
    rcases colons with _ | _ | _
    · rfl
    · exact absurd rfl hc
    · rfl
  rw [readClock?, takeDigits?_padded (by decide) hn]
  simp only [Option.bind_eq_bind, Option.bind_some, hs, ht, if_neg (Nat.not_le_of_lt hl),
    Bool.and_self, if_true, List.drop_succ_cons, List.drop_zero]

theorem readClock?_point {more n length : Nat} {fields : List Nat} {r : Text} (hn : n < 10 ^ 2)
    (hl : 3 < length) :
    readClock? (more + 1) (some true) fields length
        (Text.padded 2 n ++ CodePoint.ofChar '.' :: r)
      = readFraction? (fields ++ [n]) (length - 3) r := by
  have h₁ : startsWith ':' (CodePoint.ofChar '.' :: r) = false := rfl
  have h₂ : startsWith '.' (CodePoint.ofChar '.' :: r) = true := rfl
  rw [readClock?, takeDigits?_padded (by decide) hn]
  simp only [Option.bind_eq_bind, Option.bind_some, h₁, h₂, if_neg (Nat.not_le_of_lt hl),
    Option.getD_some, Bool.and_false, Bool.false_eq_true, if_false, Bool.true_or, if_true,
    List.drop_succ_cons, List.drop_zero]

theorem readFraction?_padded {n : Nat} (fields : List Nat) (hn : n < 10 ^ 6) :
    readFraction? fields 6 (Text.padded 6 n) = some ⟨fields, n, true⟩ := by
  have h := takeDigits?_padded (by decide) hn []
  rw [List.append_nil] at h
  unfold readFraction?
  simp only [Nat.min_self, h, Option.bind_eq_bind, Option.bind_some, Nat.sub_self]
  rw [show Nat.pow 10 0 = 1 from rfl, Nat.mul_one]
  rfl

theorem readClock?_timeText (t : TimeOfDay) :
    readClock? 3 none [] 15 (timeText t) = some (clockOf t) := by
  obtain ⟨hh, hm, hs, hu⟩ := t.valid
  unfold timeText
  rw [readClock?_colon (by omega) (by decide) (by decide),
    readClock?_colon (by omega) (by decide) (by decide), readClock?_point (by omega) (by decide)]
  exact readFraction?_padded _ hu

theorem takeWhile_timeText (t : TimeOfDay) :
    (timeText t).takeWhile (fun c => !beginsOffset c) = timeText t := by
  have hd (c : CodePoint) (hc : c.isDigit = true) : (!beginsOffset c) = true := by
    have hv := CodePoint.isDigit_iff.mp hc
    have hne (x : Char) (hx : x.toNat < 0x30 ∨ 0x39 < x.toNat) : c.is x = false :=
      CodePoint.is_eq_false_iff.mpr (by omega)
    show (!(c.is '+' || c.is '-' || c.is 'Z')) = true
    rw [hne '+' (by decide), hne '-' (by decide), hne 'Z' (by decide)]
    rfl
  have hp (w n : Nat) : ∀ c ∈ Text.padded w n, (!beginsOffset c) = true :=
    fun c hc => hd c (Text.padded_allDigits w n c hc)
  have hall : ∀ c ∈ timeText t, (!beginsOffset c) = true := by
    simp only [timeText, List.forall_mem_append, List.forall_mem_cons]
    exact ⟨hp _ _, by decide, hp _ _, by decide, hp _ _, by decide, hp _ _⟩
  exact List.takeWhile_eq_self_iff.mpr hall

theorem readTime?_timeText (t : TimeOfDay) :
    readTime? (timeText t) = some (clockOf t, none) := by
  have hdrop : (timeText t).drop 15 = [] := List.drop_of_length_le (length_timeText t).le
  unfold readTime?
  simp only [takeWhile_timeText, length_timeText, readClock?_timeText, Option.bind_eq_bind,
    Option.bind_some, hdrop]
  rfl

theorem readFields?_storedText (d : Date) (t : TimeOfDay) :
    readFields? (storedText d t) = some ((d.year, d.month, d.day), clockOf t, none) := by
  have hprint := storedText_isPrintable d t
  have hany : (storedText d t).any CodePoint.isSurrogate = false :=
    List.any_eq_false.mpr fun c hc => by rw [hprint.noSurrogates c hc]; decide
  have hdrop : (storedText d t).drop 10 = CodePoint.ofChar ' ' :: timeText t := by
    have hy := Text.length_padded (by decide) d.year_lt
    have hm := Text.length_padded (by decide) d.month_lt
    have hd := Text.length_padded (by decide) d.day_lt
    have hs : storedText d t = (Text.padded 4 d.year ++ CodePoint.ofChar '-' :: (Text.padded 2 d.month
        ++ CodePoint.ofChar '-' :: Text.padded 2 d.day)) ++ CodePoint.ofChar ' ' :: timeText t := by
      simp [storedText_eq]
    rw [hs]
    refine List.drop_left' ?_
    simp only [List.length_append, List.length_cons, hy, hm, hd]
  unfold readFields? readOctets?
  rw [withoutSurrogate_eq_self hprint.noSurrogates, hany, length_storedText,
    if_neg (by decide), octetText_eq_self hprint.isAscii]
  simp only [separatorIndex?_storedText, readDate?_storedText, hdrop, Option.bind_eq_bind,
    Option.bind_some, show separatorLength (CodePoint.ofChar ' ') = 1 from rfl,
    List.drop_succ_cons, List.drop_zero, readTime?_timeText]

/-- A stored date is read back as the reading that it was. -/
theorem read_storedText (d : Date) (t : TimeOfDay) : read (storedText d t) = .ok ⟨d, t, none⟩ := by
  have hdate : checkDate d.year d.month d.day = .ok d := by
    unfold checkDate
    rw [dif_pos d.valid]
  have htime : checkTime (clockOf t) = .ok t := by
    unfold checkTime
    exact dif_pos t.valid
  unfold read
  rw [readFields?_storedText]
  simp only [checkOffset, hdate, htime]
  rfl

end Iso

/-! ## Stored dates in the table -/

theorem head?_padded_append {w n : Nat} (r : Text) :
    ∀ c ∈ (Text.padded w n ++ r).head?, c.isDigit = true := by
  obtain ⟨x, t, ht⟩ := List.exists_cons_of_ne_nil
    (show Text.padded w n ≠ [] from List.append_ne_nil_of_right_ne_nil _ (Text.ofNat_ne_nil n))
  intro c hc
  rw [ht] at hc
  cases hc
  exact Text.padded_allDigits w n x (by simp [ht])

theorem head?_storedText (d : Date) (t : TimeOfDay) :
    ∀ c ∈ (storedText d t).head?, c.isDigit = true := by
  rw [storedText_eq]
  exact head?_padded_append _

theorem getLast?_storedText (d : Date) (t : TimeOfDay) :
    ∀ c ∈ (storedText d t).getLast?, c.isDigit = true := by
  intro c hc
  have hne : Text.padded 6 t.microsecond ≠ [] :=
    List.append_ne_nil_of_right_ne_nil _ (Text.ofNat_ne_nil _)
  rw [storedText, List.getLast?_append, List.getLast?_eq_some_getLast hne] at hc
  cases hc
  exact Text.padded_allDigits 6 t.microsecond _ (List.getLast_mem hne)

/-- A stored date is no number: a hyphen follows its first digits. -/
theorem ofText?_storedText (d : Date) (t : TimeOfDay) :
    StoredNumeral.ofText? (storedText d t) = none := by
  have hspace (c : CodePoint) (hc : c.isDigit = true) : StoredNumeral.isSpace c = false := by
    have hv := CodePoint.isDigit_iff.mp hc
    simp only [StoredNumeral.isSpace, Bool.or_eq_false_iff, beq_eq_false_iff_ne,
      Bool.and_eq_false_iff, decide_eq_false_iff_not]
    omega
  have hsign (x : Char) (hx : x.toNat < 0x30) :
      ((storedText d t).head?.any fun c => c.is x) = false := by
    cases hc : (storedText d t).head? with
    | none => rfl
    | some c =>
      have hv := CodePoint.isDigit_iff.mp (head?_storedText d t c hc)
      exact CodePoint.is_eq_false_iff.mpr (by omega)
  obtain ⟨r, hr⟩ : ∃ r, storedText d t = Text.padded 4 d.year ++ CodePoint.ofChar '-' :: r :=
    ⟨_, storedText_eq d t⟩
  have hnext : Text.NoDigitNext (CodePoint.ofChar '-' :: r) := by
    rintro c ⟨⟩
    decide
  have hempty : (Text.padded 4 d.year).isEmpty = false :=
    List.isEmpty_eq_false_iff.mpr
      (List.append_ne_nil_of_right_ne_nil _ (Text.ofNat_ne_nil d.year))
  unfold StoredNumeral.ofText?
  rw [Text.trim_eq_self (fun c hc => hspace c (head?_storedText d t c hc))
    (fun c hc => hspace c (getLast?_storedText d t c hc))]
  simp only [StoredNumeral.splitSign, hsign '-' (by decide), hsign '+' (by decide),
    Bool.false_eq_true, if_false, StoredNumeral.splitDigits]
  rw [hr, Text.takeWhile_append_stop (Text.padded_allDigits _ _) hnext,
    Text.dropWhile_append_stop (Text.padded_allDigits _ _) hnext]
  simp only [hempty, Bool.false_and, Bool.false_eq_true, if_false]
  rfl

/-- A column of dates keeps a stored date as it is. -/
theorem Cell.convert_storedText (d : Date) (t : TimeOfDay) :
    Cell.convert .dateTime (.text (storedText d t)) = .text (storedText d t) := by
  rw [Cell.convert, Cell.ofNumeral?, ofText?_storedText]
  rfl

/-! ## The order of stored dates -/

namespace Text

theorem le_cons (c : CodePoint) (s t : Text) : le (c :: s) (c :: t) = le s t := by
  rw [le, if_neg (Nat.lt_irrefl _), if_neg (Nat.lt_irrefl _)]

theorem le_total (s t : Text) : le s t = true ∨ le t s = true := by
  induction s generalizing t with
  | nil => exact .inl rfl
  | cons a s ih =>
    cases t with
    | nil => exact .inr rfl
    | cons b t =>
      rcases Nat.lt_trichotomy a.val b.val with h | h | h
      · left
        rw [le, if_pos h]
      · obtain rfl := CodePoint.val_injective h
        rw [le_cons, le_cons]
        exact ih t
      · right
        rw [le, if_pos h]

/-- Digits of one length are in the order of their values. -/
theorem digitsValue_of_le {s t x y : Text} (hs : AllDigits s) (ht : AllDigits t)
    (hlen : s.length = t.length) (h : le (s ++ x) (t ++ y) = true) :
    digitsValue s < digitsValue t ∨ digitsValue s = digitsValue t ∧ le x y = true := by
  induction s generalizing t with
  | nil =>
    obtain rfl : t = [] := List.eq_nil_of_length_eq_zero hlen.symm
    exact .inr ⟨rfl, h⟩
  | cons a s ih =>
    obtain ⟨b, t, rfl⟩ : ∃ b u, t = b :: u := by
      cases t with
      | nil => cases hlen
      | cons b u => exact ⟨b, u, rfl⟩
    have hlen' : s.length = t.length := Nat.succ.inj hlen
    have ha := CodePoint.isDigit_iff.mp (hs a (by simp))
    have hb := CodePoint.isDigit_iff.mp (ht b (by simp))
    rw [digitsValue_cons, digitsValue_cons, hlen']
    rw [List.cons_append, List.cons_append, le] at h
    split at h
    · next hlt =>
      left
      have hval : a.digitValue + 1 ≤ b.digitValue := by
        unfold CodePoint.digitValue
        omega
      have hmul := Nat.mul_le_mul_right (10 ^ t.length) hval
      have hsv := digitsValue_lt hs.of_cons
      rw [hlen'] at hsv
      rw [Nat.add_mul, Nat.one_mul] at hmul
      omega
    · next hge =>
      split at h
      · cases h
      · next hle =>
        obtain rfl : a = b := CodePoint.val_injective (by omega)
        rcases ih hs.of_cons ht.of_cons hlen' h with hv | ⟨hv, hxy⟩
        · left
          omega
        · exact .inr ⟨by rw [hv], hxy⟩

theorem padded_le {w m n : Nat} {x y : Text} (hw : 0 < w) (hm : m < 10 ^ w) (hn : n < 10 ^ w)
    (h : le (padded w m ++ x) (padded w n ++ y) = true) : m < n ∨ m = n ∧ le x y = true := by
  have := digitsValue_of_le (padded_allDigits w m) (padded_allDigits w n)
    ((length_padded hw hm).trans (length_padded hw hn).symm) h
  rwa [digitsValue_padded, digitsValue_padded] at this

end Text

theorem microseconds_le_of_timeText_le {s t : TimeOfDay}
    (h : Text.le (timeText s) (timeText t) = true) : s.microseconds ≤ t.microseconds := by
  have hs := s.valid
  have ht := t.valid
  unfold TimeOfDay.microseconds
  rcases Text.padded_le (by decide) (by omega) (by omega) h with h | ⟨hh, h⟩
  · omega
  rw [Text.le_cons] at h
  rcases Text.padded_le (by decide) (by omega) (by omega) h with h | ⟨hm, h⟩
  · omega
  rw [Text.le_cons] at h
  rcases Text.padded_le (by decide) (by omega) (by omega) h with h | ⟨hs', h⟩
  · omega
  rw [Text.le_cons, ← List.append_nil (Text.padded 6 s.microsecond),
    ← List.append_nil (Text.padded 6 t.microsecond)] at h
  rcases Text.padded_le (by decide) (by omega) (by omega) h with h | ⟨hu, -⟩
  · omega
  · omega

/-- The order of stored dates is the order of the instants. -/
theorem instant_le_of_storedText_le {u v : UtcTime}
    (h : Text.le (storedText u.date u.time) (storedText v.date v.time) = true) :
    u.instant ≤ v.instant := by
  rw [storedText_eq, storedText_eq] at h
  rcases Text.padded_le (by decide) u.date.year_lt v.date.year_lt h with hy | ⟨hy, h⟩
  · exact (UtcTime.instant_lt_of_date (Date.dayNumber_lt_of_year hy)).le
  rw [Text.le_cons] at h
  rcases Text.padded_le (by decide) u.date.month_lt v.date.month_lt h with hm | ⟨hm, h⟩
  · exact (UtcTime.instant_lt_of_date (Date.dayNumber_lt_of_month hy hm)).le
  rw [Text.le_cons] at h
  rcases Text.padded_le (by decide) u.date.day_lt v.date.day_lt h with hd | ⟨hd, h⟩
  · exact (UtcTime.instant_lt_of_date (Date.dayNumber_lt_of_day hy hm hd)).le
  rw [Text.le_cons] at h
  have htime := microseconds_le_of_timeText_le h
  unfold UtcTime.instant
  rw [Date.ext hy hm hd]
  omega

theorem storedText_le_iff {u v : UtcTime} :
    Text.le (storedText u.date u.time) (storedText v.date v.time) = true
      ↔ u.instant ≤ v.instant := by
  constructor
  · exact instant_le_of_storedText_le
  · intro h
    rcases Text.le_total (storedText u.date u.time) (storedText v.date v.time) with hle | hle
    · exact hle
    · have he := Nat.le_antisymm h (instant_le_of_storedText_le hle)
      obtain rfl := UtcTime.instant_injective he
      exact hle

/-- The text of a time determines it, because the order of texts is that of instants. -/
theorem storedText_injective {u v : UtcTime}
    (h : storedText u.date u.time = storedText v.date v.time) : u = v := by
  have hself : Text.le (storedText v.date v.time) (storedText v.date v.time) = true :=
    storedText_le_iff.mpr le_rfl
  have hle : u.instant ≤ v.instant := by
    rw [← storedText_le_iff, h]
    exact hself
  have hge : v.instant ≤ u.instant := by
    rw [← storedText_le_iff, h]
    exact hself
  exact UtcTime.instant_injective (Nat.le_antisymm hle hge)

end Registry
