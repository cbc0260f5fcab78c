import Registry.DateTime
import Registry.Proofs.Calendar

/-!
# Instants of readings

A reading at UTC is found from its instant (`UtcTime.ofInstant?_instant`), so moving a reading to UTC
that is there already leaves it as it is, and moving any other keeps its instant
(`DateTime.instant_of_toUtc?`). Instants are in the order of dates and times.
-/

namespace Registry

namespace TimeOfDay

theorem microseconds_lt (t : TimeOfDay) : t.microseconds < microsecondsPerDay := by
  have := t.valid
  unfold microseconds microsecondsPerDay
  omega

theorem ext {s t : TimeOfDay} (hh : s.hour = t.hour) (hm : s.minute = t.minute)
    (hs : s.second = t.second) (hu : s.microsecond = t.microsecond) : s = t := by
  cases s
  cases t
  simp only at hh hm hs hu
  subst hh hm hs hu
  rfl

theorem ofMicroseconds_microseconds (t : TimeOfDay) : ofMicroseconds t.microseconds = t := by
  have := t.valid
  apply ext <;> simp only [ofMicroseconds, microseconds] <;> omega

theorem microseconds_ofMicroseconds {n : Nat} (h : n < microsecondsPerDay) :
    (ofMicroseconds n).microseconds = n := by
  unfold microsecondsPerDay at h
  simp only [ofMicroseconds, microseconds]
  omega

end TimeOfDay

namespace UtcTime

/-- A reading is found from its instant. -/
theorem ofInstant?_instant (u : UtcTime) : ofInstant? u.instant = some u := by
  have hlt := u.time.microseconds_lt
  have hpos : 0 < microsecondsPerDay := by decide
  have hdiv : u.instant / microsecondsPerDay = u.date.dayNumber := by
    rw [instant, Nat.mul_comm, Nat.mul_add_div hpos, Nat.div_eq_of_lt hlt, Nat.add_zero]
  have hmod : u.instant % microsecondsPerDay = u.time.microseconds := by
    rw [instant, Nat.mul_comm, Nat.mul_add_mod, Nat.mod_eq_of_lt hlt]
  unfold ofInstant?
  rw [if_pos (Int.natCast_nonneg _), Int.toNat_natCast, hdiv, hmod,
    Date.ofDayNumber?_dayNumber, TimeOfDay.ofMicroseconds_microseconds]
  rfl

/-- The reading at an instant has that instant. -/
theorem instant_of_ofInstant? {i : Int} {u : UtcTime} (h : ofInstant? i = some u) :
    (u.instant : Int) = i := by
  unfold ofInstant? at h
  split at h
  · next hi =>
    obtain ⟨date, hdate, rfl⟩ := Option.map_eq_some_iff.mp h
    have hmod : i.toNat % microsecondsPerDay < microsecondsPerDay := Nat.mod_lt _ (by decide)
    have hn : (UtcTime.mk date (TimeOfDay.ofMicroseconds (i.toNat % microsecondsPerDay))).instant
        = i.toNat := by
      unfold instant
      rw [Date.dayNumber_of_ofDayNumber? hdate, TimeOfDay.microseconds_ofMicroseconds hmod,
        Nat.div_add_mod']
    rw [hn, Int.toNat_of_nonneg hi]
  · cases h

theorem instant_injective {u v : UtcTime} (h : u.instant = v.instant) : u = v := by
  have hu := u.ofInstant?_instant
  rw [h, v.ofInstant?_instant] at hu
  exact (Option.some.inj hu).symm

theorem instant_toDateTime (u : UtcTime) : u.toDateTime.instant = u.instant := Int.sub_zero _

/-- Moving a reading at UTC to UTC leaves it as it is. -/
theorem toUtc?_toDateTime (u : UtcTime) : u.toDateTime.toUtc? = some u := by
  show ofInstant? u.toDateTime.instant = some u
  rw [instant_toDateTime, ofInstant?_instant]

theorem instant_lt_of_date {u v : UtcTime} (h : u.date.dayNumber < v.date.dayNumber) :
    u.instant < v.instant := by
  have hlt := u.time.microseconds_lt
  have hmul := Nat.mul_le_mul_right microsecondsPerDay (show u.date.dayNumber + 1 ≤ _ from h)
  rw [Nat.add_mul, Nat.one_mul] at hmul
  unfold instant
  omega

end UtcTime

/-- Moving a reading to UTC keeps its instant. -/
theorem DateTime.instant_of_toUtc? {d : DateTime} {u : UtcTime} (h : d.toUtc? = some u) :
    (u.instant : Int) = d.instant := by
  unfold toUtc? at h
  split at h
  · next ho =>
    cases h
    unfold instant
    rw [ho]
    exact (Int.sub_zero _).symm
  · exact UtcTime.instant_of_ofInstant? h

end Registry
