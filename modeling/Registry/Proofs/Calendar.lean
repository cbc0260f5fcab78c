import Registry.Calendar

/-!
# The calendar and its day numbers

The days of a month and of a year lie one after the other, so a date is found from its number
(`Date.ofDayNumber?_dayNumber`) and what is found has that number (`Date.dayNumber_of_ofDayNumber?`).
A later date, year, month and day compared in this order, has a greater number.
-/

namespace Registry

/-! ## Years and months -/

theorem daysBeforeYear_succ {year : Nat} (h : 1 ≤ year) :
    daysBeforeYear (year + 1) = daysBeforeYear year + (if isLeapYear year then 366 else 365) := by
  obtain ⟨k, rfl⟩ : ∃ k, year = k + 1 := ⟨year - 1, by omega⟩
  have hle : k / 100 ≤ k / 4 := by omega
  have h₁ : (k + 1) % 100 = 0 → (k + 1) % 4 = 0 := by omega
  have h₂ : (k + 1) % 400 = 0 → (k + 1) % 100 = 0 := by omega
  unfold daysBeforeYear isLeapYear
  rw [Nat.add_sub_cancel, Nat.add_sub_cancel, Nat.succ_div, Nat.succ_div, Nat.succ_div]
  simp only [Nat.dvd_iff_mod_eq_zero, Bool.and_eq_true, Bool.or_eq_true, beq_iff_eq, bne_iff_ne]
  by_cases h4 : (k + 1) % 4 = 0
  · by_cases h100 : (k + 1) % 100 = 0
    · by_cases h400 : (k + 1) % 400 = 0
      · simp [h4, h100, h400]
        omega
      · simp [h4, h100, h400]
        omega
    · have h400 : ¬(k + 1) % 400 = 0 := fun h => h100 (h₂ h)
      simp [h4, h100, h400]
      omega
  · have h100 : ¬(k + 1) % 100 = 0 := fun h => h4 (h₁ h)
    have h400 : ¬(k + 1) % 400 = 0 := fun h => h100 (h₂ h)
    simp [h4, h100, h400]
    omega

theorem daysBeforeYear_mono {m n : Nat} (hm : 1 ≤ m) (h : m ≤ n) :
    daysBeforeYear m ≤ daysBeforeYear n := by
  induction h with
  | refl => exact Nat.le_refl _
  | step hn ih =>
    have hs := daysBeforeYear_succ (Nat.le_trans hm hn)
    rw [hs]
    omega

theorem daysBeforeMonth_succ {year month : Nat} (h : 1 ≤ month) :
    daysBeforeMonth year (month + 1) = daysBeforeMonth year month + daysInMonth year month := by
  obtain ⟨m, rfl⟩ : ∃ m, month = m + 1 := ⟨month - 1, by omega⟩
  rfl

theorem daysBeforeMonth_thirteen (year : Nat) :
    daysBeforeMonth year 13 = if isLeapYear year then 366 else 365 := by
  simp only [daysBeforeMonth, daysInMonth]
  cases isLeapYear year <;> rfl

theorem daysBeforeMonth_mono (year : Nat) {m n : Nat} (hm : 1 ≤ m) (h : m ≤ n) :
    daysBeforeMonth year m ≤ daysBeforeMonth year n := by
  induction h with
  | refl => exact Nat.le_refl _
  | step hn ih =>
    rw [daysBeforeMonth_succ (Nat.le_trans hm hn)]
    omega

/-- The year of a day is found from a day between two New Years. The estimate is at most one year
off, because 400 years have 146097 days. -/
theorem yearOf_eq {year n : Nat} (h : 1 ≤ year) (h₁ : daysBeforeYear year ≤ n)
    (h₂ : n < daysBeforeYear (year + 1)) : Date.yearOf n = year := by
  have hle : n * 400 / 146097 ≤ year := by
    unfold daysBeforeYear at h₁ h₂
    omega
  have hge : year ≤ n * 400 / 146097 + 2 := by
    unfold daysBeforeYear at h₁ h₂
    omega
  unfold Date.yearOf
  simp only
  generalize n * 400 / 146097 = e at hle hge ⊢
  split
  · next hlt =>
    rcases Nat.lt_or_ge year (e + 1) with hy | hy
    · omega
    · have := daysBeforeYear_mono (by omega) hy
      omega
  · next hge' =>
    split
    · next hn =>
      rcases Nat.lt_or_ge (e + 1) year with hy | hy
      · omega
      · have := daysBeforeYear_mono (m := year + 1) (n := e + 1 + 1) (by omega) (by omega)
        omega
    · next hn =>
      rcases Nat.lt_trichotomy year (e + 1) with hy | hy | hy
      · have := daysBeforeYear_mono (m := year + 1) (n := e + 1) (by omega) (by omega)
        omega
      · exact hy.symm
      · have := daysBeforeYear_mono (m := e + 1 + 1) (n := year) (by omega) (by omega)
        omega

/-- The month and the day of the month are found from a month that is not later. -/
theorem monthAndDay_eq (year months : Nat) {month m r : Nat} (h : 1 ≤ month) (hm : month ≤ m)
    (hle : m ≤ month + months) (hr : r < daysInMonth year m) :
    Date.monthAndDay year months month (daysBeforeMonth year m - daysBeforeMonth year month + r)
      = (m, r + 1) := by
  induction months generalizing month with
  | zero =>
    obtain rfl : m = month := by omega
    rw [Nat.sub_self, Nat.zero_add]
    rfl
  | succ months ih =>
    rw [Date.monthAndDay]
    rcases Nat.eq_or_lt_of_le hm with rfl | hlt
    · rw [Nat.sub_self, Nat.zero_add, if_pos hr]
    · have hmono := daysBeforeMonth_mono year (show 1 ≤ month + 1 by omega) hlt
      rw [daysBeforeMonth_succ h] at hmono
      rw [if_neg (by omega)]
      have := ih (show 1 ≤ month + 1 by omega) hlt (by omega)
      rw [daysBeforeMonth_succ h] at this
      rwa [show daysBeforeMonth year m - daysBeforeMonth year month + r - daysInMonth year month
        = daysBeforeMonth year m - (daysBeforeMonth year month + daysInMonth year month) + r by
          omega]

/-- Every day lies between two New Years. -/
theorem exists_year (n : Nat) :
    ∃ year, 1 ≤ year ∧ daysBeforeYear year ≤ n ∧ n < daysBeforeYear (year + 1) := by
  induction n with
  | zero => exact ⟨1, by decide⟩
  | succ n ih =>
    obtain ⟨year, h, h₁, h₂⟩ := ih
    by_cases hn : n + 1 < daysBeforeYear (year + 1)
    · exact ⟨year, h, by omega, hn⟩
    · have hs := daysBeforeYear_succ (show 1 ≤ year + 1 by omega)
      refine ⟨year + 1, by omega, by omega, ?_⟩
      rw [hs]
      split <;> omega

/-- Passing over months keeps the number of days since New Year. -/
theorem daysBeforeMonth_monthAndDay (year months : Nat) {month m day r : Nat} (h : 1 ≤ month)
    (he : Date.monthAndDay year months month r = (m, day)) :
    daysBeforeMonth year m + (day - 1) = daysBeforeMonth year month + r := by
  induction months generalizing month r with
  | zero =>
    obtain ⟨rfl, rfl⟩ := Prod.mk.inj he
    rfl
  | succ months ih =>
    rw [Date.monthAndDay] at he
    split at he
    · obtain ⟨rfl, rfl⟩ := Prod.mk.inj he
      rfl
    · next hr =>
      rw [ih (by omega) he, daysBeforeMonth_succ h]
      omega

/-! ## Dates -/

namespace Date

/-- The number of a date within its year. -/
def dayOfYear (d : Date) : Nat := daysBeforeMonth d.year d.month + (d.day - 1)

theorem dayOfYear_lt (d : Date) :
    daysBeforeYear d.year + d.dayOfYear < daysBeforeYear (d.year + 1) := by
  obtain ⟨hy, -, hm, hm', hd, hd'⟩ := d.valid
  have h₁ := daysBeforeMonth_mono d.year (show 1 ≤ d.month + 1 by omega)
    (show d.month + 1 ≤ 13 by omega)
  rw [daysBeforeMonth_succ hm, daysBeforeMonth_thirteen] at h₁
  rw [daysBeforeYear_succ hy, dayOfYear]
  omega

/-- A date is found from its number. -/
theorem ofDayNumber?_dayNumber (d : Date) : ofDayNumber? d.dayNumber = some d := by
  obtain ⟨hy, -, hm, hm', hd, hd'⟩ := d.valid
  have hnum : d.dayNumber = daysBeforeYear d.year + d.dayOfYear := Nat.add_assoc _ _ _
  have hyear : yearOf d.dayNumber = d.year := by
    rw [hnum]
    exact yearOf_eq hy (Nat.le_add_right _ _) d.dayOfYear_lt
  have hmonth := monthAndDay_eq d.year 11 (Nat.le_refl 1) (m := d.month) (r := d.day - 1) hm
    (by omega) (by omega)
  rw [show daysBeforeMonth d.year 1 = 0 from rfl, Nat.sub_zero,
    show d.day - 1 + 1 = d.day by omega] at hmonth
  unfold ofDayNumber?
  simp only [hyear]
  rw [hnum, Nat.add_sub_cancel_left, dayOfYear, hmonth]
  simp only [of?]
  rw [dif_pos d.valid]

theorem of?_eq_some {year month day : Nat} {d : Date} (h : of? year month day = some d) :
    d.year = year ∧ d.month = month ∧ d.day = day := by
  unfold of? at h
  split at h
  · cases h
    exact ⟨rfl, rfl, rfl⟩
  · cases h

/-- The date that is found from a number has it. -/
theorem dayNumber_of_ofDayNumber? {n : Nat} {d : Date} (h : ofDayNumber? n = some d) :
    d.dayNumber = n := by
  obtain ⟨year, hy, h₁, h₂⟩ := exists_year n
  unfold ofDayNumber? at h
  simp only [yearOf_eq hy h₁ h₂] at h
  obtain ⟨m, day, he⟩ : ∃ m day, monthAndDay year 11 1 (n - daysBeforeYear year) = (m, day) :=
    ⟨_, _, rfl⟩
  rw [he] at h
  obtain ⟨rfl, rfl, rfl⟩ := of?_eq_some h
  have hm := daysBeforeMonth_monthAndDay d.year 11 (Nat.le_refl 1) he
  rw [show daysBeforeMonth d.year 1 = 0 from rfl] at hm
  unfold dayNumber
  omega

theorem dayNumber_lt_of_year {d e : Date} (h : d.year < e.year) : d.dayNumber < e.dayNumber := by
  have h₁ := d.dayOfYear_lt
  have h₂ := daysBeforeYear_mono (Nat.le_add_left 1 d.year) (show d.year + 1 ≤ e.year from h)
  unfold dayNumber
  unfold dayOfYear at h₁
  omega

theorem dayNumber_lt_of_month {d e : Date} (hy : d.year = e.year) (h : d.month < e.month) :
    d.dayNumber < e.dayNumber := by
  obtain ⟨-, -, hm, -, hd, hd'⟩ := d.valid
  have h₁ := daysBeforeMonth_mono d.year (show 1 ≤ d.month + 1 by omega)
    (show d.month + 1 ≤ e.month from h)
  rw [daysBeforeMonth_succ hm] at h₁
  unfold dayNumber
  rw [← hy]
  omega

theorem dayNumber_lt_of_day {d e : Date} (hy : d.year = e.year) (hm : d.month = e.month)
    (h : d.day < e.day) : d.dayNumber < e.dayNumber := by
  obtain ⟨-, -, -, -, hd, -⟩ := d.valid
  unfold dayNumber
  rw [← hy, ← hm]
  omega

theorem ext {d e : Date} (hy : d.year = e.year) (hm : d.month = e.month) (hd : d.day = e.day) :
    d = e := by
  cases d
  cases e
  simp only at hy hm hd
  subst hy hm hd
  rfl

end Date

end Registry
