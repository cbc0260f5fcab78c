import Registry.Proofs.DateTime.Input
import Registry.Proofs.Identity.Fields
import Registry.Proofs.Outcome

/-!
# Dates beyond the calendar

Errors of fields are collected, but a date whose instant no calendar date at UTC has ends the
reading of a record at once. So inputs are refused in this way exactly if one of the dates is such a
date, whatever the other fields hold (`Identity.ofInputs_eq_beyondCalendar_iff`).
-/

namespace Registry

/-! ## Filling -/

namespace Inputs

/-- Filling stops at a date beyond the calendar exactly if some field does, whatever other fields
refuse, and it stops for no other reason. -/
theorem fill_eq_beyondCalendar_iff {α β : Type} {set : α → β → Value → Except InputFailure β}
    {name : α → Text} {inputs : Inputs} (beyond : α → Prop) (fields : List α)
    (hbeyond : ∀ field ∈ fields, ∀ record,
      fillField set name inputs field record = .error .beyondCalendar ↔ beyond field)
    (hrefused : ∀ field ∈ fields, ∀ record r,
      fillField set name inputs field record ≠ .error (.refused r))
    (record : β) (errors : List FieldError) :
    (fill set name inputs fields record errors = .error .beyondCalendar
        ↔ ∃ field ∈ fields, beyond field)
      ∧ ∀ r, fill set name inputs fields record errors ≠ .error (.refused r) := by
  induction fields generalizing record errors with
  | nil => cases errors <;> simp [fill]
  | cons field rest ih =>
    have hfield := hbeyond field List.mem_cons_self record
    have hrefuse := hrefused field List.mem_cons_self record
    have ih := ih (fun f hf => hbeyond f (List.mem_cons_of_mem field hf))
      (fun f hf => hrefused f (List.mem_cons_of_mem field hf))
    simp only [List.mem_cons, exists_eq_or_imp]
    unfold fillField at hfield hrefuse
    unfold fill
    cases hv : inputs.get? (name field) with
    | none =>
      simp only [hv, reduceCtorEq, false_iff] at hfield
      simpa [hfield] using ih record errors
    | some v =>
      simp only [hv] at hfield hrefuse ⊢
      cases hs : set field record v with
      | ok record' =>
        simp only [hs, reduceCtorEq, false_iff] at hfield
        simpa [hfield] using ih record' errors
      | error f =>
        rw [hs] at hfield hrefuse
        cases f with
        | invalid more =>
          simp only [Except.error.injEq, reduceCtorEq, false_iff] at hfield
          simpa [hfield] using ih record (errors ++ more)
        | beyondCalendar => simp [hfield.mp rfl]
        | refused r => exact absurd rfl (hrefuse r)

end Inputs

/-! ## Single fields -/

theorem readTextField_error {name : Text} {v : Value} {f : InputFailure}
    (h : readTextField name v = .error f) : ∃ errors, f = .invalid errors := by
  unfold readTextField at h
  cases hv : Field.text v with
  | ok t => rw [hv] at h; cases h
  | error fault =>
    rw [hv] at h
    cases h
    exact ⟨_, rfl⟩

theorem readMetadataField_error {name : Text} {v : Value} {f : InputFailure}
    (h : readMetadataField name v = .error f) : ∃ errors, f = .invalid errors := by
  unfold readMetadataField at h
  split at h
  · cases h
  · cases hv : Field.mapping v with
    | ok es => rw [hv] at h; cases h
    | error errors =>
      rw [hv] at h
      cases h
      exact ⟨_, rfl⟩

theorem readDateField_ne_refused {name : Text} {v : Value} {r : Refusal} :
    readDateField name v ≠ .error (.refused r) := by
  unfold readDateField
  split
  · simp
  · cases Field.dateTime v with
    | error fault => simp [InputFailure.ofFault]
    | ok d => cases hd : d.toUtc? <;> simp [hd]

/-! ## Identities -/

namespace Identity

/-- A value is a date that no calendar date at UTC has. -/
def BeyondCalendar (v : Value) : Prop := ∃ d, Field.dateTime v = .ok d ∧ d.toUtc? = none

theorem set_eq_beyondCalendar_iff {i : Identity} {c : Column} {v : Value} :
    set i c v = .error .beyondCalendar
      ↔ (c = .dob ∨ c = .createdAt) ∧ BeyondCalendar v := by
  cases c with
  | identityId =>
    simp only [set, map_eq_error, reduceCtorEq, or_self, false_and, iff_false]
    intro h
    obtain ⟨errors, he⟩ := readTextField_error h
    cases he
  | detail a =>
    simp only [set, map_eq_error, reduceCtorEq, or_self, false_and, iff_false]
    intro h
    obtain ⟨errors, he⟩ := readTextField_error h
    cases he
  | dob => simp [set, map_eq_error, readDateField_eq_beyondCalendar_iff, BeyondCalendar]
  | createdAt => simp [set, map_eq_error, readDateField_eq_beyondCalendar_iff, BeyondCalendar]
  | metadata =>
    simp only [set, map_eq_error, reduceCtorEq, or_self, false_and, iff_false]
    intro h
    obtain ⟨errors, he⟩ := readMetadataField_error h
    cases he

theorem set_ne_refused {i : Identity} {c : Column} {v : Value} {r : Refusal} :
    set i c v ≠ .error (.refused r) := by
  intro h
  cases c with
  | identityId =>
    obtain ⟨errors, he⟩ := readTextField_error (map_eq_error.mp h)
    cases he
  | detail a =>
    obtain ⟨errors, he⟩ := readTextField_error (map_eq_error.mp h)
    cases he
  | dob => exact readDateField_ne_refused (map_eq_error.mp h)
  | createdAt => exact readDateField_ne_refused (map_eq_error.mp h)
  | metadata =>
    obtain ⟨errors, he⟩ := readMetadataField_error (map_eq_error.mp h)
    cases he

/-- Making an identity of the values of its columns fails beyond the calendar exactly if one of its
dates is there. -/
theorem ofInputs_eq_beyondCalendar_iff (value : Column → Value) :
    (ofInputs (Inputs.ofColumns Column.all value) = .error .beyondCalendar
        ↔ BeyondCalendar (value .dob) ∨ BeyondCalendar (value .createdAt))
      ∧ ∀ r, ofInputs (Inputs.ofColumns Column.all value) ≠ .error (.refused r) := by
  have hfield (c : Column) (record : Identity) :
      Inputs.fillField (fun c i v => set i c v) (fun c => Text.ofString c.name)
        (Inputs.ofColumns Column.all value) c record = set record c (value c) := by
    rw [Inputs.fillField, Inputs.get?_ofColumns, if_pos (Column.mem_all c)]
  have h := Inputs.fill_eq_beyondCalendar_iff
    (fun c => (c = .dob ∨ c = .createdAt) ∧ BeyondCalendar (value c)) Column.all
    (fun c _ record => by rw [hfield]; exact set_eq_beyondCalendar_iff)
    (fun c _ record r => by rw [hfield]; exact set_ne_refused) blank []
  refine ⟨h.1.trans ⟨?_, ?_⟩, h.2⟩
  · rintro ⟨c, -, rfl | rfl, hc⟩
    · exact .inl hc
    · exact .inr hc
  · rintro (hc | hc)
    · exact ⟨.dob, Column.mem_all _, .inl rfl, hc⟩
    · exact ⟨.createdAt, Column.mem_all _, .inr rfl, hc⟩

end Identity

end Registry
