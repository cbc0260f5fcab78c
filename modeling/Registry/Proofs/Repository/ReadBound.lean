import Registry.Proofs.Binary64.Rounding
import Registry.Proofs.Config.Nesting
import Registry.Service

/-!
# The bound that the server is told

A configuration holds a positive number of seconds, and the server is told the whole milliseconds of
it. These are a bound exactly if the number is a millisecond or more and a thousand times the number
is in the range of floating-point numbers (`Service.readBound_iff`). A shorter time is told as zero,
with which the server knows no bound (`Service.readBound_zero`), and with a number beyond the range
no statement can be made: then every read fails before its query.
-/

namespace Registry

/-! ## A thousand times a number -/

namespace Magnitude

theorem unitsPerOne_le_unitsBound : unitsPerOne ≤ unitsBound := by decide +kernel

variable {m : Magnitude}

/-- No time below a millisecond is rounded up to one. -/
theorem roundedUnits_lt_unitsPerOne_iff :
    roundedUnits (m.units * 1000) < unitsPerOne ↔ m.units * 1000 < unitsPerOne := by
  obtain ⟨k, hk, hone⟩ := exists_unitsPerOne_eq
  rw [hone]
  exact roundedUnits_thousandfold_lt_iff m (by omega)

theorem unitsPerOne_le_roundedUnits_iff :
    unitsPerOne ≤ roundedUnits (m.units * 1000) ↔ unitsPerOne ≤ m.units * 1000 := by
  simp only [← Nat.not_lt, roundedUnits_lt_unitsPerOne_iff]

/-- No number of milliseconds in the range of the format is rounded out of it. -/
theorem roundedUnits_lt_unitsBound_iff :
    roundedUnits (m.units * 1000) < unitsBound ↔ m.units * 1000 < unitsBound := by
  obtain ⟨k, hk, hbound⟩ := exists_unitsBound_eq
  rw [hbound, ← pow_add]
  exact roundedUnits_thousandfold_lt_iff m (by omega)

end Magnitude

namespace Binary64

open Magnitude

variable {m : Magnitude}

theorem scale_thousand_of_lt (h : m.units * 1000 < unitsBound) :
    ∃ time, (finite false m).scale 1000 = finite false time
      ∧ time.units = roundedUnits (m.units * 1000) := by
  rcases nearest?_one (m.units * 1000) with ⟨-, time, htime, hunits⟩ | ⟨hbeyond, -⟩
  · exact ⟨time, by rw [scale, htime, ofMagnitude?], hunits⟩
  · exact absurd (roundedUnits_lt_unitsBound_iff.mpr h) (Nat.not_lt.mpr hbeyond)

theorem scale_thousand_of_le (h : unitsBound ≤ m.units * 1000) :
    (finite false m).scale 1000 = infinite false := by
  rcases nearest?_one (m.units * 1000) with ⟨hwithin, -⟩ | ⟨-, hnone⟩
  · exact absurd (roundedUnits_lt_unitsBound_iff.mp hwithin) (Nat.not_lt.mpr h)
  · rw [scale, hnone, ofMagnitude?]

theorem eq_of_isPositive {x : Binary64} (hx : x.isPositive = true) :
    x = infinite false ∨ ∃ m, x = finite false m := by
  cases x with
  | nan => cases hx
  | infinite negative =>
    cases negative with
    | false => exact .inl rfl
    | true => cases hx
  | finite negative m =>
    cases negative with
    | false => exact .inr ⟨m, rfl⟩
    | true => cases hx

/-- A number of milliseconds beyond the range is infinite. -/
theorem scale_thousand_of_beyond {x : Binary64} (hx : x.isPositive = true)
    (h : ∀ m, x = finite false m → unitsBound ≤ m.units * 1000) :
    x.scale 1000 = infinite false := by
  rcases eq_of_isPositive hx with rfl | ⟨m, rfl⟩
  · rfl
  · exact scale_thousand_of_le (h m rfl)

/-- A finite number of milliseconds is the rounded one. -/
theorem scale_thousand_eq_finite {x : Binary64} (hx : x.isPositive = true) {time : Magnitude}
    (h : x.scale 1000 = finite false time) :
    ∃ m, x = finite false m ∧ m.units * 1000 < unitsBound
      ∧ time.units = roundedUnits (m.units * 1000) := by
  rcases eq_of_isPositive hx with rfl | ⟨m, rfl⟩
  · cases h
  · rcases Nat.lt_or_ge (m.units * 1000) unitsBound with hlt | hge
    · obtain ⟨time', htime', hunits⟩ := scale_thousand_of_lt hlt
      cases htime'.symm.trans h
      exact ⟨m, rfl, hlt, hunits⟩
    · cases (scale_thousand_of_le hge).symm.trans h

end Binary64

/-! ## The statement -/

namespace ReadTimeout

open Magnitude

/-- The statement that tells the server a number of milliseconds. -/
def boundStatement (n : Nat) : Text :=
  Text.ofString "SET LOCAL statement_timeout = " ++ Text.ofInt n

/-- The number is a bound for a time in milliseconds: it is not zero, and otherwise what the time is
cut down to. -/
structure Bounds (n : Nat) (time : Magnitude) : Prop where
  one_le : 1 ≤ n
  le : n * unitsPerOne ≤ max unitsPerOne time.units
  lt : time.units < (n + 1) * unitsPerOne

variable {x : Binary64} {time : Magnitude}

theorem boundStatement_injective {a b : Nat} (h : boundStatement a = boundStatement b) : a = b := by
  have hofInt : ∀ n : Nat, Text.ofInt n = Text.ofNat n := by
    intro n
    exact if_neg (Int.not_lt.mpr (Int.natCast_nonneg n))
  have hdigits : Text.ofNat a = Text.ofNat b := by
    rw [← hofInt, ← hofInt]
    exact List.append_cancel_left h
  rw [← Text.digitsValue_ofNat a, hdigits, Text.digitsValue_ofNat]

theorem statements_of_finite (h : x.scale 1000 = .finite false time) :
    (fractional x).statements (Text.ofString "postgresql")
      = .ok [boundStatement (time.units / unitsPerOne)] := by
  rw [statements, if_pos rfl, milliseconds, h]
  rfl

theorem statements_of_infinite (h : x.scale 1000 = .infinite false) :
    (fractional x).statements (Text.ofString "postgresql")
      = .error (Refusal.size "cannot convert float infinity to integer") := by
  rw [statements, if_pos rfl, milliseconds, h]
  rfl

/-- A time of a millisecond or more is cut down to a bound. -/
theorem bounds_div_iff : Bounds (time.units / unitsPerOne) time ↔ unitsPerOne ≤ time.units := by
  have hone := unitsPerOne_pos
  constructor
  · intro h
    by_contra hlt
    have hzero : time.units / unitsPerOne = 0 := Nat.div_eq_of_lt (Nat.lt_of_not_le hlt)
    have := h.one_le
    omega
  · intro h
    refine ⟨Nat.div_pos h hone, ?_, Nat.lt_mul_of_div_lt (Nat.lt_succ_self _) hone⟩
    exact (Nat.div_mul_le_self _ _).trans (le_max_right _ _)

end ReadTimeout

/-! ## Repositories -/

namespace Service

open Magnitude ReadTimeout

variable {inputs : ConfigTree.ModelInputs} {s : Service} {c : Config}

/-- A repository has the positive bound that the section of its configuration takes. -/
theorem repository_of_section
    (h : ConfigTree.section? .database inputs = .ok c.database) :
    ∃ x, x.isPositive = true ∧ ConfigTree.takeSetting inputs Scope.readTimeout = .ok (.float x)
      ∧ s.repository c = .ok ⟨s.engine.dialect, .fractional x⟩ := by
  have htakes := ConfigTree.section?_takes h
  obtain ⟨v, hget, hholds, hv⟩ := htakes.setting Scope.readTimeout_mem
  have hsection : c.database.isSection .database = true := by
    obtain ⟨fields, explicit, hmodel, -⟩ := htakes
    rw [hmodel]
    rfl
  cases v with
  | float x =>
    refine ⟨x, hholds, hv, ?_⟩
    have hsetting : c.database.setting (Text.ofString "read_timeout_seconds")
        = .leaf (.float x) := by
      show (c.database.get? [Scope.readTimeout.name]).getD (.leaf .null) = _
      rw [hget]
      rfl
    rw [repository, DatabaseSettings.ofSection, if_pos hsection]
    simp only [Except.map, DatabaseSettings.ofTree, hsetting, ConfigTree.plain,
      ReadTimeout.ofValue]
  | _ => exact absurd hholds (by simp [Setting.Holds, SettingKind.Holds, Scope.readTimeout])

/-- A read whose bound cannot be told escapes before its query. -/
theorem getById_escapes {x : Binary64} (hx : x.scale 1000 = .infinite false) (d : Database)
    {fault : Option FaultPoint} (hfault : fault ≠ some .begin) (elapsed : Nat) (id : Text) :
    (Repository.getById ⟨Text.ofString "postgresql", .fractional x⟩ d fault elapsed id).result
      = .error (.escaped (.refused (Refusal.size "cannot convert float infinity to integer"))) := by
  have hread : Repository.readId ⟨Text.ofString "postgresql", .fractional x⟩ d fault elapsed id
      = .error (.escaped (.refused (Refusal.size "cannot convert float infinity to integer"))) := by
    rw [Repository.readId, statements_of_infinite hx]
    rfl
  simp only [Repository.getById, ReadTimeout.refusal?, if_neg hfault, hread]

/-- On PostgreSQL the server is told a bound exactly if a thousand times the seconds of an accepted
section is one at least and in the range of the format. Below a millisecond it is told zero; beyond
the range no statement can be made, and every read that begins escapes. -/
theorem readBound_iff (h : ConfigTree.section? .database inputs = .ok c.database)
    (hdialect : s.engine.dialect = Text.ofString "postgresql") :
    ∃ x r, x.isPositive = true
      ∧ ConfigTree.takeSetting inputs Scope.readTimeout = .ok (.float x) ∧ s.repository c = .ok r
      ∧ ((∃ n time, x.scale 1000 = .finite false time ∧ Bounds n time
            ∧ r.readTimeout.statements r.dialect = .ok [boundStatement n])
          ↔ ∃ m, x = .finite false m ∧ unitsPerOne ≤ m.units * 1000 ∧ m.units * 1000 < unitsBound)
      ∧ (∀ m, x = .finite false m → m.units * 1000 < unitsPerOne →
        r.readTimeout.statements r.dialect = .ok [boundStatement 0])
      ∧ ((∀ m, x = .finite false m → unitsBound ≤ m.units * 1000) →
        ∀ d fault elapsed id, fault ≠ some .begin →
          (r.getById d fault elapsed id).result = .error (.escaped (.refused
            (Refusal.size "cannot convert float infinity to integer"))))
      ∧ ∀ m time, x = .finite false m → x.scale 1000 = .finite false time →
        2 ^ 53 * (time.units - m.units * 1000) ≤ m.units * 1000
          ∧ 2 ^ 53 * (m.units * 1000 - time.units) ≤ m.units * 1000 := by
  obtain ⟨x, hx, htaken, hrepository⟩ := repository_of_section (s := s) h
  rw [hdialect] at hrepository
  refine ⟨x, _, hx, htaken, hrepository, ?_, ?_, ?_, ?_⟩
  · constructor
    · rintro ⟨n, time, hscale, hbounds, hstatement⟩
      obtain ⟨m, rfl, hlt, hunits⟩ := Binary64.scale_thousand_eq_finite hx hscale
      have hn : n = time.units / unitsPerOne := by
        have hstatements := (statements_of_finite hscale).symm.trans hstatement
        exact (boundStatement_injective (List.cons.inj (Except.ok.inj hstatements)).1).symm
      rw [hn, bounds_div_iff, hunits, unitsPerOne_le_roundedUnits_iff] at hbounds
      exact ⟨m, rfl, hbounds, hlt⟩
    · rintro ⟨m, rfl, hle, hlt⟩
      obtain ⟨time, hscale, hunits⟩ := Binary64.scale_thousand_of_lt hlt
      refine ⟨_, time, hscale, bounds_div_iff.mpr ?_, statements_of_finite hscale⟩
      rw [hunits, unitsPerOne_le_roundedUnits_iff]
      exact hle
  · rintro m rfl hsmall
    obtain ⟨time, hscale, hunits⟩ :=
      Binary64.scale_thousand_of_lt (hsmall.trans_le unitsPerOne_le_unitsBound)
    have hzero : time.units / unitsPerOne = 0 := by
      rw [hunits]
      exact Nat.div_eq_of_lt (roundedUnits_lt_unitsPerOne_iff.mpr hsmall)
    rw [← hzero]
    exact statements_of_finite hscale
  · intro hbeyond d fault elapsed id hfault
    exact getById_escapes (Binary64.scale_thousand_of_beyond hx hbeyond) d hfault elapsed id
  · rintro m time rfl hscale
    obtain ⟨m', heq, -, hunits⟩ := Binary64.scale_thousand_eq_finite hx hscale
    cases heq
    rw [hunits]
    exact roundedUnits_error _

/-! ## Accepted numbers -/

/-- The inputs of a section with a number of seconds. -/
def boundInputs (x : Binary64) : ConfigTree.ModelInputs :=
  [(Scope.readTimeout.name, .leaf (.float x))]

theorem takeSetting_boundInputs {x : Binary64} (hx : x.isPositive = true) :
    ConfigTree.takeSetting (boundInputs x) Scope.readTimeout = .ok (.float x) := by
  have hholds : SettingKind.Holds .positiveFloat (.float x) := hx
  exact SettingKind.read_of_holds hholds

/-- Every positive number is accepted. -/
theorem exists_section {x : Binary64} (hx : x.isPositive = true) :
    ∃ t, ConfigTree.section? .database (boundInputs x) = .ok t := by
  have hall : ∀ y ∈ Section.database.settings, ∃ f : Text × ConfigTree,
      ∃ v, f = (y.name, .leaf v) ∧ ConfigTree.takeSetting (boundInputs x) y = .ok v := by
    intro y hy
    by_cases hname : Scope.readTimeout.name = y.name
    · obtain rfl := List.inj_on_of_nodup_map Section.database.nodup_settings
        Scope.readTimeout_mem hy hname
      exact ⟨_, _, rfl, takeSetting_boundInputs hx⟩
    · have hinput : ConfigTree.input? (boundInputs x) y.name = none := by
        rw [boundInputs, ConfigTree.input?_cons, if_neg hname]
        rfl
      exact ⟨_, y.default, rfl, by rw [ConfigTree.takeSetting, hinput]⟩
  obtain ⟨fields, hfields⟩ := exists_forall₂_iff.mpr hall
  exact ⟨_, map_eq_ok.mpr ⟨fields, ConfigTree.readSettings_eq_ok_iff.mpr hfields, rfl⟩⟩

/-- A service on a server with a section of the database. -/
def onServer (database : ConfigTree) : Service :=
  ⟨⟨.standardSection .logging, database, .standardSection .app⟩,
    ⟨Text.ofString "postgresql", .shared, .server⟩, none, true, 0⟩

def quarter : Magnitude := ⟨Nat.pow 2 1072, 1, 1072, by decide, by decide, by decide +kernel⟩

/-- A quarter of a second is told as a bound. -/
theorem readBound_iff_quarter :
    ∃ t r, ConfigTree.section? .database (boundInputs (.finite false quarter)) = .ok t
      ∧ (onServer t).repository (onServer t).config = .ok r
      ∧ ∃ n time, (Binary64.finite false quarter).scale 1000 = .finite false time ∧ Bounds n time
        ∧ r.readTimeout.statements r.dialect = .ok [boundStatement n] := by
  have hpositive : (Binary64.finite false quarter).isPositive = true := by decide +kernel
  obtain ⟨t, ht⟩ := exists_section hpositive
  obtain ⟨x, r, -, htaken, hr, hbound, -⟩ := readBound_iff (s := onServer t)
    (c := (onServer t).config) ht rfl
  cases (takeSetting_boundInputs hpositive).symm.trans htaken
  exact ⟨t, r, ht, hr, hbound.mpr ⟨quarter, rfl, by decide +kernel, by decide +kernel⟩⟩

/-- Half a millisecond, which is accepted, is told as zero. -/
theorem readBound_zero :
    ∃ t r, ConfigTree.section? .database (boundInputs (.ofDecimal false 5 (-4))) = .ok t
      ∧ (onServer t).repository (onServer t).config = .ok r
      ∧ r.readTimeout.statements r.dialect
        = .ok [Text.ofString "SET LOCAL statement_timeout = 0"] := by
  have hpositive : (Binary64.ofDecimal false 5 (-4)).isPositive = true := by decide +kernel
  obtain ⟨t, ht⟩ := exists_section hpositive
  obtain ⟨x, -, htaken, hr⟩ := repository_of_section (s := onServer t) (c := (onServer t).config) ht
  obtain rfl : Binary64.ofDecimal false 5 (-4) = x :=
    Value.float.inj (Except.ok.inj ((takeSetting_boundInputs hpositive).symm.trans htaken))
  have hzero : (ReadTimeout.fractional (.ofDecimal false 5 (-4))).statements
        (Text.ofString "postgresql")
      = .ok [Text.ofString "SET LOCAL statement_timeout = 0"] := by decide +kernel
  exact ⟨t, _, ht, hr, hzero⟩

end Service

end Registry
