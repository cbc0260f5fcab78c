import Mathlib.Algebra.BigOperators.Intervals
import Mathlib.Data.List.Lex
import Registry.Proofs.DateTime.Input
import Registry.Value.Member

/-!
# Readings at UTC

How much time has passed on the calendar when a clock shows a reading is counted off in whole years,
months and days (`DateTime.elapsed`), and this is the instant of the reading. The calendar has a
reading for every instant from its first to its last one, so a reading is moved to UTC exactly if its
instant lies between these; the instant is kept, and what comes out is in the order of the instants
field by field (`DateTime.toUtc?_keepsInstant`).
-/

open Finset

namespace Registry

/-! ## Time that has passed -/

def daysInYear (year : Nat) : Nat := ∑ month ∈ Ico 1 13, daysInMonth year month

/-- The number of days that have passed on the calendar when a date begins: those of the years before
it, those of the months of its year before it, and those of its month before it. -/
def Date.daysElapsed (d : Date) : Nat :=
  ∑ year ∈ Ico 1 d.year, daysInYear year + ∑ month ∈ Ico 1 d.month, daysInMonth d.year month
    + (d.day - 1)

/-- The microseconds that have passed at UTC since the beginning of the year 1. A clock without an
offset is one at UTC. -/
def DateTime.elapsed (d : DateTime) : Int :=
  ((((d.date.daysElapsed * 24 + d.time.hour) * 60 + d.time.minute) * 60 + d.time.second) * 1000000
      + d.time.microsecond : Nat)
    - d.offset.elim 0 Offset.microseconds

theorem daysBeforeMonth_eq_sum (year : Nat) {month : Nat} (h : 1 ≤ month) :
    daysBeforeMonth year month = ∑ m ∈ Ico 1 month, daysInMonth year m := by
  induction h with
  | refl => rfl
  | step hm ih => rw [daysBeforeMonth_succ hm, ih, sum_Ico_succ_top hm]

theorem daysBeforeYear_eq_sum {year : Nat} (h : 1 ≤ year) :
    daysBeforeYear year = ∑ y ∈ Ico 1 year, daysInYear y := by
  induction h with
  | refl => rfl
  | step hy ih =>
    rw [daysBeforeYear_succ hy, ih, sum_Ico_succ_top hy, ← daysBeforeMonth_thirteen,
      daysBeforeMonth_eq_sum _ (by omega), daysInYear]

theorem Date.dayNumber_eq_daysElapsed (d : Date) : d.dayNumber = d.daysElapsed := by
  obtain ⟨hy, -, hm, -⟩ := d.valid
  rw [dayNumber, daysElapsed, daysBeforeYear_eq_sum hy, daysBeforeMonth_eq_sum _ hm]

theorem DateTime.instant_eq_elapsed (d : DateTime) : d.instant = d.elapsed := by
  have htime : (UtcTime.mk d.date d.time).instant
      = (((d.date.daysElapsed * 24 + d.time.hour) * 60 + d.time.minute) * 60 + d.time.second)
          * 1000000 + d.time.microsecond := by
    unfold UtcTime.instant TimeOfDay.microseconds microsecondsPerDay
    simp only [Date.dayNumber_eq_daysElapsed]
    omega
  rw [instant, elapsed, htime]
  cases d.offset <;> rfl

/-! ## The first and the last reading -/

/-- The month of a day of the first months of a year. -/
theorem exists_month (year : Nat) {months n : Nat} (h : n < daysBeforeMonth year (months + 1)) :
    ∃ month, 1 ≤ month ∧ month ≤ months ∧ daysBeforeMonth year month ≤ n
      ∧ n < daysBeforeMonth year (month + 1) := by
  induction months with
  | zero => exact absurd h (Nat.not_lt_zero n)
  | succ months ih =>
    by_cases hn : n < daysBeforeMonth year (months + 1)
    · obtain ⟨month, h₁, h₂, h₃⟩ := ih hn
      exact ⟨month, h₁, by omega, h₃⟩
    · exact ⟨months + 1, by omega, Nat.le_refl _, by omega, h⟩

/-- Every day up to the end of the year 9999 has a date. -/
theorem Date.exists_dayNumber {n : Nat} (h : n < 3652059) : ∃ d : Date, d.dayNumber = n := by
  obtain ⟨year, hy, h₁, h₂⟩ := exists_year n
  have hlast : year ≤ 9999 := by
    by_contra hbeyond
    have hmono := daysBeforeYear_mono (show 1 ≤ 10000 by decide) (show 10000 ≤ year by omega)
    have hyears : daysBeforeYear 10000 = 3652059 := by decide
    omega
  rw [daysBeforeYear_succ hy, ← daysBeforeMonth_thirteen] at h₂
  have hyear : n - daysBeforeYear year < daysBeforeMonth year (12 + 1) := by
    show _ < daysBeforeMonth year 13
    omega
  obtain ⟨month, hm, hm', h₃, h₄⟩ := exists_month year hyear
  rw [daysBeforeMonth_succ hm] at h₄
  refine ⟨⟨year, month, n - daysBeforeYear year - daysBeforeMonth year month + 1,
    hy, hlast, hm, hm', by omega, by omega⟩, ?_⟩
  simp only [dayNumber]
  omega

namespace UtcTime

/-- The beginning of the year 1. -/
def first : UtcTime := ⟨Value.firstDate, TimeOfDay.midnight⟩

/-- The last microsecond of the year 9999. -/
def last : UtcTime := ⟨Value.lastDate, Value.lastTime⟩

theorem instant_first : first.instant = 0 := by decide

theorem instant_last : last.instant = 3652059 * 86400000000 - 1 := by decide

/-- The instants of readings at UTC are those from the first to the last one. -/
theorem exists_instant_iff {i : Int} :
    (∃ u : UtcTime, (u.instant : Int) = i) ↔ (first.instant : Int) ≤ i ∧ i ≤ last.instant := by
  rw [instant_first, instant_last]
  constructor
  · rintro ⟨u, rfl⟩
    have := u.instant_lt
    omega
  · rintro ⟨hfirst, hlast⟩
    have hday : i.toNat / microsecondsPerDay < 3652059 := by
      unfold microsecondsPerDay
      omega
    have hmod : i.toNat % microsecondsPerDay < microsecondsPerDay := Nat.mod_lt _ (by decide)
    obtain ⟨date, hdate⟩ := Date.exists_dayNumber hday
    refine ⟨⟨date, TimeOfDay.ofMicroseconds (i.toNat % microsecondsPerDay)⟩, ?_⟩
    rw [instant, hdate, TimeOfDay.microseconds_ofMicroseconds hmod, Nat.div_add_mod',
      Int.toNat_of_nonneg hfirst]

/-! ## The order of readings -/

/-- The fields of a reading, the largest unit first. -/
def fields (u : UtcTime) : List Nat :=
  [u.date.year, u.date.month, u.date.day, u.time.hour, u.time.minute, u.time.second,
    u.time.microsecond]

theorem fields_injective {u v : UtcTime} (h : u.fields = v.fields) : u = v := by
  unfold fields at h
  simp only [List.cons.injEq, and_true] at h
  obtain ⟨hyear, hmonth, hday, hhour, hminute, hsecond, hmicro⟩ := h
  have hdate : u.date = v.date := Date.ext hyear hmonth hday
  have htime : u.time = v.time := TimeOfDay.ext hhour hminute hsecond hmicro
  cases u
  cases v
  rw [UtcTime.mk.injEq]
  exact ⟨hdate, htime⟩

theorem instant_lt_of_fields_lt {u v : UtcTime} (h : u.fields < v.fields) :
    u.instant < v.instant := by
  unfold fields at h
  simp only [List.cons_lt_cons_iff, List.not_lt_nil, and_false, or_false] at h
  -- the first field that differs decides: within the date by the day, within the day by the time
  rcases h with hyear | ⟨hyear, hmonth | ⟨hmonth, hday | ⟨hday, htime⟩⟩⟩
  · exact instant_lt_of_date (Date.dayNumber_lt_of_year hyear)
  · exact instant_lt_of_date (Date.dayNumber_lt_of_month hyear hmonth)
  · exact instant_lt_of_date (Date.dayNumber_lt_of_day hyear hmonth hday)
  · have hu := u.time.valid
    have hv := v.time.valid
    unfold instant TimeOfDay.microseconds
    rw [Date.ext hyear hmonth hday]
    omega

theorem fields_lt_iff {u v : UtcTime} : u.fields < v.fields ↔ u.instant < v.instant := by
  refine ⟨instant_lt_of_fields_lt, fun h => ?_⟩
  rcases lt_trichotomy u.fields v.fields with hlt | heq | hgt
  · exact hlt
  · rw [fields_injective heq] at h
    exact absurd h (Nat.lt_irrefl _)
  · exact absurd h (instant_lt_of_fields_lt hgt).asymm

theorem fields_eq_iff {u v : UtcTime} : u.fields = v.fields ↔ u.instant = v.instant := by
  constructor
  · intro h
    rw [fields_injective h]
  · intro h
    rw [instant_injective h]

end UtcTime

/-! ## Moving to UTC -/

namespace DateTime

/-- A reading without offset is one at UTC. -/
theorem toUtc?_of_offset_none {d : DateTime} (h : d.offset = none) :
    d.toUtc? = some ⟨d.date, d.time⟩ := by
  unfold toUtc?
  rw [h]

/-- The readings that can be moved to UTC. -/
theorem exists_toUtc?_iff {d : DateTime} :
    (∃ u, d.toUtc? = some u)
      ↔ UtcTime.first.toDateTime.elapsed ≤ d.elapsed
        ∧ d.elapsed ≤ UtcTime.last.toDateTime.elapsed := by
  simp only [toUtc?_eq_some_iff, ← instant_eq_elapsed, UtcTime.instant_toDateTime]
  exact UtcTime.exists_instant_iff

theorem toUtc?_eq_none_iff {d : DateTime} :
    d.toUtc? = none
      ↔ d.elapsed < UtcTime.first.toDateTime.elapsed
        ∨ UtcTime.last.toDateTime.elapsed < d.elapsed := by
  rw [← Option.not_isSome_iff_eq_none, Option.isSome_iff_exists, exists_toUtc?_iff, not_and_or,
    not_le, not_le]

theorem elapsed_of_toUtc? {d : DateTime} {u : UtcTime} (h : d.toUtc? = some u) :
    u.toDateTime.elapsed = d.elapsed := by
  rw [← instant_eq_elapsed, ← instant_eq_elapsed, UtcTime.instant_toDateTime, instant_of_toUtc? h]

/-- Moving to UTC keeps the instant. A reading without offset stays as it is. Any other is moved
exactly if its instant lies between the first and the last one of the calendar, and is refused
otherwise; what comes out has the offset zero and the same instant, and stays as it is when it is
moved again. Two that are moved are in the order of their instants, field by field. -/
theorem toUtc?_keepsInstant (d : DateTime) :
    (d.offset = none → d.toUtc? = some ⟨d.date, d.time⟩)
      ∧ ((∃ u, d.toUtc? = some u)
        ↔ UtcTime.first.toDateTime.elapsed ≤ d.elapsed
          ∧ d.elapsed ≤ UtcTime.last.toDateTime.elapsed)
      ∧ (∀ name, readDateField name (.dateTime d) = .error .beyondCalendar
        ↔ d.elapsed < UtcTime.first.toDateTime.elapsed
          ∨ UtcTime.last.toDateTime.elapsed < d.elapsed)
      ∧ ∀ u, d.toUtc? = some u →
        u.toDateTime.offset = some 0 ∧ u.toDateTime.elapsed = d.elapsed
          ∧ u.toDateTime.toUtc? = some u
          ∧ ∀ (e : DateTime) (v : UtcTime), e.toUtc? = some v →
            (u.fields < v.fields ↔ d.elapsed < e.elapsed)
              ∧ (u.fields = v.fields ↔ d.elapsed = e.elapsed) := by
  refine ⟨toUtc?_of_offset_none, exists_toUtc?_iff, fun name => ?_, fun u hu => ?_⟩
  · rw [← toUtc?_eq_none_iff]
    simp [readDateField_eq_beyondCalendar_iff, Field.dateTime]
  · refine ⟨rfl, elapsed_of_toUtc? hu, u.toUtc?_toDateTime, fun e v hv => ?_⟩
    rw [← instant_eq_elapsed, ← instant_eq_elapsed, ← instant_of_toUtc? hu,
      ← instant_of_toUtc? hv, Int.ofNat_lt, Int.ofNat_inj]
    exact ⟨UtcTime.fields_lt_iff, UtcTime.fields_eq_iff⟩

/-- A month that begins a microsecond ahead of UTC. -/
def marchAhead : DateTime := ⟨⟨2024, 3, 1, by decide⟩, TimeOfDay.midnight, some ⟨1, by decide⟩⟩

/-- The same reading without an offset. -/
def marchNaive : DateTime := { marchAhead with offset := none }

/-- The last reading of the calendar, an hour behind UTC. -/
def lastBehind : DateTime :=
  { UtcTime.last.toDateTime with offset := some ⟨-3600000000, by decide⟩ }

theorem toUtc?_keepsInstant_leapDay :
    ∃ u v, marchAhead.toUtc? = some u ∧ marchNaive.toUtc? = some v
      ∧ u.fields = [2024, 2, 29, 23, 59, 59, 999999]
      ∧ v.fields = [2024, 3, 1, 0, 0, 0, 0]
      ∧ u.toDateTime.elapsed = marchAhead.elapsed
      ∧ marchAhead.elapsed < marchNaive.elapsed
      ∧ readDateField [] (.dateTime lastBehind) = .error .beyondCalendar := by
  obtain ⟨-, -, -, hmoved⟩ := toUtc?_keepsInstant marchAhead
  obtain ⟨hnaive, -⟩ := toUtc?_keepsInstant marchNaive
  obtain ⟨-, -, hrefused, -⟩ := toUtc?_keepsInstant lastBehind
  have hu : marchAhead.toUtc?
      = some ⟨⟨2024, 2, 29, by decide⟩, ⟨23, 59, 59, 999999, by decide⟩⟩ := by decide +kernel
  have hv := hnaive rfl
  obtain ⟨-, helapsed, -, horder⟩ := hmoved _ hu
  refine ⟨_, _, hu, hv, rfl, rfl, helapsed, (horder _ _ hv).1.mp (by decide), ?_⟩
  refine (hrefused []).mpr (.inr ?_)
  rw [← instant_eq_elapsed, ← instant_eq_elapsed]
  decide

end DateTime

end Registry
