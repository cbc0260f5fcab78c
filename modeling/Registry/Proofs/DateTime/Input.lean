import Registry.Input
import Registry.Proofs.Binary64.Rounding
import Registry.Proofs.DateTime.Instant
import Registry.Proofs.Outcome

/-!
# Instants of inputs

What an input of a date stands for is an instant (`Value.instant?`): that of a reading, of midnight,
or of a number that counts from the epoch. A field takes exactly the inputs whose instants the
calendar has, and holds the reading at UTC of the same instant (`readDateField_eq_ok_iff`).
-/

namespace Registry

/-! ## The instants of the calendar -/

theorem Date.dayNumber_lt (d : Date) : d.dayNumber < 3652059 := by
  have hday := d.dayOfYear_lt
  have hyear := daysBeforeYear_mono (Nat.le_add_left 1 d.year) (show d.year + 1 ≤ 10000 by
    have := d.valid
    omega)
  have hlast : daysBeforeYear 10000 = 3652059 := by decide
  unfold dayOfYear at hday
  unfold dayNumber
  omega

theorem UtcTime.instant_lt (u : UtcTime) : u.instant < 3652059 * 86400000000 := by
  have hdate := u.date.dayNumber_lt
  have htime := u.time.microseconds_lt
  unfold microsecondsPerDay at htime
  unfold instant microsecondsPerDay
  omega

theorem UtcTime.ofInstant?_eq_some_iff {i : Int} {u : UtcTime} :
    ofInstant? i = some u ↔ (u.instant : Int) = i := by
  constructor
  · exact instant_of_ofInstant?
  · rintro rfl
    exact u.ofInstant?_instant

/-- A reading is moved to UTC exactly if the calendar has its instant. -/
theorem DateTime.toUtc?_eq_some_iff {d : DateTime} {u : UtcTime} :
    d.toUtc? = some u ↔ (u.instant : Int) = d.instant := by
  constructor
  · exact DateTime.instant_of_toUtc?
  · intro h
    unfold toUtc?
    split
    · next hnone =>
      have hinstant : d.instant = (UtcTime.mk d.date d.time).instant := by
        unfold instant
        rw [hnone]
        exact Int.sub_zero _
      rw [← UtcTime.ofInstant?_instant ⟨d.date, d.time⟩, UtcTime.ofInstant?_eq_some_iff, h,
        hinstant]
    · exact UtcTime.ofInstant?_eq_some_iff.mpr h

/-! ## Numbers -/

/-- An input is read as a date that is a given one at UTC. -/
def IsReadAs {ε : Type} (x : Except ε DateTime) (u : UtcTime) : Prop :=
  ∃ d, x = .ok d ∧ d.toUtc? = some u

section

variable {ε ε' : Type} {u : UtcTime}

theorem isReadAs_ok_iff {d : DateTime} :
    IsReadAs (.ok d : Except ε DateTime) u ↔ (u.instant : Int) = d.instant := by
  rw [← DateTime.toUtc?_eq_some_iff]
  constructor
  · rintro ⟨d, hd, hu⟩
    cases hd
    exact hu
  · intro hu
    exact ⟨d, rfl, hu⟩

theorem not_isReadAs_error {e : ε} : ¬IsReadAs (.error e : Except ε DateTime) u := by
  rintro ⟨d, hd, -⟩
  cases hd

theorem isReadAs_error_iff {e : ε} {i : Int} :
    IsReadAs (.error e : Except ε DateTime) u ↔ none = some i :=
  iff_of_false not_isReadAs_error (Option.some_ne_none i).symm

theorem isReadAs_mapError_iff {x : Except ε DateTime} {f : ε → ε'} :
    IsReadAs (x.mapError f) u ↔ IsReadAs x u := by
  unfold IsReadAs
  simp only [mapError_eq_ok]

end

namespace DateInput

/-- The instant of a number of seconds, or of milliseconds if it is large. -/
def instantOfInt (n : Int) : Int :=
  UtcTime.epoch + if n.natAbs ≤ secondsLimit then n * 1000000 else n * 1000

/-- The instant of a number that need not be whole, rounded to microseconds. -/
def instantOfBinary64? (x : Binary64) : Option Int :=
  let unit : Nat := if x.exceeds secondsLimit then 1000 else 1000000
  x.floor?.map fun n => UtcTime.epoch + (n * unit + (x.fractional.scale unit).roundHalfUp)

/-- The instant of a number in a text. -/
def instantOfCount? (c : Count) : Option Int :=
  let n : Int := Text.digitsValue c.whole
  match c.fraction with
  | none => some (instantOfInt (if c.negative then -n else n))
  | some fraction =>
    instantOfBinary64? (Binary64.ofDecimal c.negative (Text.digitsValue (c.whole ++ fraction))
      (-(fraction.length : Int)))

/-- The instant of a text: that of the reading that it is, or of the number. -/
def instantOfText? (t : Text) : Option Int :=
  match readCalendar? t with
  | some ((year, month, day), time, offset) =>
    (Date.of? year month day).map fun date => (DateTime.mk date time offset).instant
  | none => (readCount? t).bind instantOfCount?

variable {beyond : DateInputError} {u : UtcTime}

theorem isReadAs_ofEpoch_iff {n : Int} :
    IsReadAs (ofEpoch beyond n) u ↔ (u.instant : Int) = UtcTime.epoch + n := by
  unfold ofEpoch
  simp only
  constructor
  · intro h
    split at h
    · exact absurd h not_isReadAs_error
    · split at h
      · next v hv =>
        rw [isReadAs_ok_iff] at h
        rw [h, v.instant_toDateTime, UtcTime.instant_of_ofInstant? hv]
      · exact absurd h not_isReadAs_error
  · intro h
    have hlt := u.instant_lt
    have hrange : ¬(n / 1000000 < -62167219200 ∨ 253402300799 < n / 1000000) := by
      unfold UtcTime.epoch at h
      omega
    rw [if_neg hrange, UtcTime.ofInstant?_eq_some_iff.mpr h]
    exact ⟨u.toDateTime, rfl, u.toUtc?_toDateTime⟩

theorem isReadAs_ofInt_iff {n : Int} :
    IsReadAs (ofInt beyond n) u ↔ (u.instant : Int) = instantOfInt n :=
  isReadAs_ofEpoch_iff

theorem isReadAs_ofBinary64_iff {x : Binary64} :
    IsReadAs (ofBinary64 beyond x) u ↔ instantOfBinary64? x = some (u.instant : Int) := by
  unfold ofBinary64 instantOfBinary64?
  cases x.floor? with
  | none => exact isReadAs_error_iff
  | some n =>
    simp only [isReadAs_ofEpoch_iff, Option.map_some, Option.some.injEq]
    exact eq_comm

theorem isReadAs_ofCount_iff {c : Count} :
    IsReadAs (ofCount c) u ↔ instantOfCount? c = some (u.instant : Int) := by
  unfold ofCount instantOfCount?
  cases c.fraction with
  | none =>
    simp only [isReadAs_ofInt_iff, Option.some.injEq]
    exact eq_comm
  | some fraction => exact isReadAs_ofBinary64_iff

theorem isReadAs_ofText_iff {t : Text} :
    IsReadAs (ofText t) u ↔ instantOfText? t = some (u.instant : Int) := by
  unfold ofText instantOfText?
  cases readCalendar? t with
  | none =>
    cases readCount? t with
    | none => exact isReadAs_error_iff
    | some c => exact isReadAs_ofCount_iff
  | some x =>
    obtain ⟨⟨year, month, day⟩, time, offset⟩ := x
    simp only
    cases Date.of? year month day with
    | none => exact isReadAs_error_iff
    | some date =>
      simp only [isReadAs_ok_iff, Option.map_some, Option.some.injEq]
      exact eq_comm

end DateInput

/-! ## Inputs -/

/-- The instant that an input of a date stands for, if it stands for one. -/
def Value.instant? : Value → Option Int
  | .dateTime d => some d.instant
  | .date d => some (d.dayNumber * microsecondsPerDay : Nat)
  | .int n => some (DateInput.instantOfInt n)
  | .float x => DateInput.instantOfBinary64? x
  | .text t => if t.any CodePoint.isSurrogate then none else DateInput.instantOfText? t
  | .bytes b => DateInput.instantOfText? (Utf8.decodeLossy b)
  | _ => none

theorem DateTime.instant_midnight (d : Date) :
    (DateTime.mk d TimeOfDay.midnight none).instant
      = (d.dayNumber * microsecondsPerDay : Nat) := by
  have hzero : TimeOfDay.midnight.microseconds = 0 := by decide
  simp only [instant, UtcTime.instant, hzero, Nat.add_zero, Int.sub_zero]

/-- An integer that counts to an instant of the calendar is not too large for a number. -/
theorem isFinite_of_instantOfInt {n : Int} {u : UtcTime}
    (h : (u.instant : Int) = DateInput.instantOfInt n) : (Binary64.ofInt n).isFinite = true := by
  have hsmall : n.natAbs < 2 ^ 64 := by
    have hlt := u.instant_lt
    unfold DateInput.instantOfInt UtcTime.epoch DateInput.secondsLimit at h
    split at h <;> omega
  obtain ⟨m, hm⟩ := Magnitude.exists_nearest?_of_lt hsmall
  rw [Binary64.ofInt, hm]
  rfl

theorem isReadAs_dateTime_iff {v : Value} {u : UtcTime} :
    IsReadAs (Field.dateTime v) u ↔ v.instant? = some (u.instant : Int) := by
  cases v with
  | dateTime d =>
    rw [Field.dateTime, Value.instant?, isReadAs_ok_iff, Option.some.injEq, eq_comm]
  | date d =>
    rw [Field.dateTime, Value.instant?, isReadAs_ok_iff, DateTime.instant_midnight,
      Option.some.injEq, eq_comm]
  | int n =>
    rw [Field.dateTime, Value.instant?, Option.some.injEq, eq_comm (b := (u.instant : Int))]
    split
    · rw [isReadAs_mapError_iff, DateInput.isReadAs_ofInt_iff]
    · next hlarge =>
      exact iff_of_false not_isReadAs_error fun h => hlarge (isFinite_of_instantOfInt h)
  | float x =>
    rw [Field.dateTime, Value.instant?, isReadAs_mapError_iff, DateInput.isReadAs_ofBinary64_iff]
  | text t =>
    rw [Field.dateTime, Value.instant?]
    split
    · exact isReadAs_error_iff
    · rw [isReadAs_mapError_iff, DateInput.isReadAs_ofText_iff]
  | bytes b =>
    rw [Field.dateTime, Value.instant?, isReadAs_mapError_iff, DateInput.isReadAs_ofText_iff]
  | _ => exact isReadAs_error_iff

/-- A field takes nothing, and the inputs that stand for instants of the calendar; it holds the
reading of the same instant at UTC. -/
theorem readDateField_eq_ok_iff {name : Text} {v : Value} {d : Option UtcTime} :
    readDateField name v = .ok d
      ↔ v = .null ∧ d = none ∨ ∃ u, d = some u ∧ v.instant? = some (u.instant : Int) := by
  simp only [← isReadAs_dateTime_iff]
  unfold readDateField
  split
  · have hnone : ∀ u, ¬IsReadAs (Field.dateTime .null) u := fun u => not_isReadAs_error
    simp [hnone, eq_comm]
  · next hnull =>
    rw [or_iff_right fun h => hnull h.1]
    cases Field.dateTime v with
    | error fault =>
      refine iff_of_false nofun ?_
      rintro ⟨u, -, hu⟩
      exact not_isReadAs_error hu
    | ok t =>
      simp only [isReadAs_ok_iff, ← DateTime.toUtc?_eq_some_iff]
      cases t.toUtc? with
      | none => exact iff_of_false nofun (by simp)
      | some u => simp [eq_comm]

/-- A field refuses an input as beyond the calendar if it is read as a date that has none at UTC. -/
theorem readDateField_eq_beyondCalendar_iff {name : Text} {v : Value} :
    readDateField name v = .error .beyondCalendar
      ↔ ∃ d, Field.dateTime v = .ok d ∧ d.toUtc? = none := by
  unfold readDateField
  split
  · simp [Field.dateTime]
  · cases Field.dateTime v with
    | error fault => simp [InputFailure.ofFault]
    | ok d => cases hd : d.toUtc? <;> simp [hd]

end Registry
