import Mathlib.Data.List.Forall2
import Registry.Config.Scope
import Registry.Proofs.Outcome
import Registry.Proofs.Value.Merge

/-!
# What settings hold

Whatever a setting is read from, it holds a value of its own kind (`SettingKind.read_holds`), and
reading such a value again changes nothing (`SettingKind.read_of_holds`). A section is made of
inputs exactly if each of its settings takes its own, and a configuration exactly if each of its
sections does (`ConfigTree.readSettings_eq_ok_iff`, `ConfigTree.readSections_eq_ok_iff`).
-/

namespace Registry

/-! ## Values of a setting -/

namespace Value

/-- The value holds no other values. -/
def isSingle : Value → Bool
  | list _ => false
  | tuple _ => false
  | dict _ => false
  | enclosing _ => false
  | _ => true

theorem isCircular_of_isSingle {v : Value} (h : v.isSingle = true) : v.isCircular = false := by
  cases v <;> first | rfl | cases h

theorem mergeOver_of_isSingle {v : Value} (h : v.isSingle = true) (base : Option Value) :
    mergeOver base v = v := by
  cases v with
  | dict entries => cases h
  | _ => rfl

end Value

namespace SettingKind

/-- What a setting may hold. -/
def Holds : SettingKind → Value → Prop
  | text, .text _ => True
  | optionalText, .null => True
  | optionalText, .text _ => True
  | word words, .text t => t ∈ words
  | int, .int _ => True
  | positiveFloat, .float x => x.isPositive = true
  | _, _ => False

theorem mem_of_word_eq_ok {words : List Text} {v : Value} {t : Text}
    (h : Field.word words v = .ok t) : t ∈ words := by
  unfold Field.word at h
  split at h
  · split at h
    · next ht => cases h; exact ht
    · cases h
  · cases h

theorem isPositive_of_positiveFloat_eq_ok {v : Value} {x : Binary64}
    (h : Field.positiveFloat v = .ok x) : x.isPositive = true := by
  obtain ⟨y, -, h⟩ := bind_eq_ok.mp h
  split at h
  · next hy => cases h; exact hy
  · cases h

/-- A setting holds what is read for it. -/
theorem read_holds {kind : SettingKind} {v w : Value} (h : kind.read v = .ok w) :
    kind.Holds w := by
  cases kind with
  | text =>
    obtain ⟨t, -, rfl⟩ := map_eq_ok.mp h
    trivial
  | optionalText =>
    cases v with
    | null => cases h; trivial
    | _ =>
      simp only [read] at h
      obtain ⟨t, -, rfl⟩ := map_eq_ok.mp h
      trivial
  | word words =>
    obtain ⟨t, ht, rfl⟩ := map_eq_ok.mp h
    exact mem_of_word_eq_ok ht
  | int =>
    obtain ⟨n, -, rfl⟩ := map_eq_ok.mp h
    trivial
  | positiveFloat =>
    obtain ⟨x, hx, rfl⟩ := map_eq_ok.mp h
    exact isPositive_of_positiveFloat_eq_ok hx

/-- What a setting holds is read as it is. -/
theorem read_of_holds {kind : SettingKind} {v : Value} (h : kind.Holds v) :
    kind.read v = .ok v := by
  cases kind <;> cases v <;> first | exact h.elim | skip
  case text.text => rfl
  case optionalText.null => rfl
  case optionalText.text => rfl
  case int.int => rfl
  case word.text words t => simp only [read, Field.word, if_pos (show t ∈ words from h)]; rfl
  case positiveFloat.float x =>
    simp only [read, Field.positiveFloat, Field.float, bind, Except.bind,
      if_pos (show x.isPositive = true from h)]
    rfl

/-- Only values that hold no others are read for a setting. -/
theorem isSingle_of_read_eq_ok {kind : SettingKind} {v w : Value} (h : kind.read v = .ok w) :
    v.isSingle = true := by
  cases v <;> first | rfl | (cases kind <;> cases h)

end SettingKind

namespace Setting

/-- The setting may hold the value. -/
def Holds (x : Setting) (v : Value) : Prop := x.kind.Holds v

/-- The value can be read for the setting. -/
def Reads (x : Setting) (v : Value) : Prop := ∃ w, x.kind.read v = .ok w

theorem Holds.reads {x : Setting} {v : Value} (h : x.Holds v) : x.Reads v :=
  ⟨v, SettingKind.read_of_holds h⟩

theorem Reads.isSingle {x : Setting} {v : Value} (h : x.Reads v) : v.isSingle = true := by
  obtain ⟨w, hw⟩ := h
  exact SettingKind.isSingle_of_read_eq_ok hw

end Setting

/-! ## Names -/

/-- A setting may hold the value it has when none is given. -/
theorem Section.default_holds {s : Section} {x : Setting} (hx : x ∈ s.settings) :
    x.Holds x.default := by
  have h : ∀ x ∈ s.settings, x.kind.read x.default = .ok x.default := by
    cases s <;> decide +kernel
  exact SettingKind.read_holds (h x hx)

theorem Section.mem_all (s : Section) : s ∈ all := by cases s <;> decide

theorem Section.isPrivate_name (s : Section) : ConfigTree.isPrivate s.name = false := by
  cases s <;> rfl

theorem Section.nodup_names : (all.map name).Nodup := by decide +kernel

theorem Section.name_injective {s s' : Section} (h : s.name = s'.name) : s = s' := by
  have hall : ∀ s ∈ all, ∀ s' ∈ all, s.name = s'.name → s = s' := by decide +kernel
  exact hall s s.mem_all s' s'.mem_all h

theorem Section.isPrivate_setting {s : Section} {x : Setting} (hx : x ∈ s.settings) :
    ConfigTree.isPrivate x.name = false := by
  have h : ∀ x ∈ s.settings, ConfigTree.isPrivate x.name = false := by
    cases s <;> decide +kernel
  exact h x hx

theorem Section.nodup_settings (s : Section) : (s.settings.map Setting.name).Nodup := by
  cases s <;> decide +kernel

namespace ConfigTree

/-! ## Making models of inputs -/

/-- What a setting takes of inputs. -/
def takeSetting (inputs : ModelInputs) (x : Setting) : Except FieldFault Value :=
  match input? inputs x.name with
  | some t => readSetting x.kind t
  | none => .ok x.default

/-- What a section takes of inputs. -/
def takeSection (inputs : ModelInputs) (s : Section) : Except (List FieldError) ConfigTree :=
  match input? inputs s.name with
  | some t => (readSection s t).mapError fun es => es.map (FieldError.under s.name)
  | none => .ok (standardSection s)

/-- Settings are read exactly if each of them takes its own of the inputs. -/
theorem readSettings_eq_ok_iff {inputs : ModelInputs} {xs : List Setting}
    {fields : List (Text × ConfigTree)} :
    readSettings inputs xs = .ok fields ↔
      List.Forall₂ (fun x f => ∃ v, f = (x.name, leaf v) ∧ takeSetting inputs x = .ok v)
        xs fields := by
  induction xs generalizing fields with
  | nil => simp [readSettings, eq_comm]
  | cons x rest ih =>
    rw [List.forall₂_cons_left_iff]
    simp only [← ih]
    unfold takeSetting
    cases hrest : readSettings inputs rest with
    | error errors =>
      cases hinput : input? inputs x.name with
      | none => simp [readSettings, hrest, hinput]
      | some t => cases hread : readSetting x.kind t <;> simp [readSettings, hrest, hinput, hread]
    | ok more =>
      cases hinput : input? inputs x.name with
      | none => simp [readSettings, hrest, hinput, eq_comm]
      | some t =>
        cases hread : readSetting x.kind t <;> simp [readSettings, hrest, hinput, hread, eq_comm]

/-- Sections are read exactly if each of them takes its own of the inputs. -/
theorem readSections_eq_ok_iff {inputs : ModelInputs} {ss : List Section}
    {fields : List (Text × ConfigTree)} :
    readSections inputs ss = .ok fields ↔
      List.Forall₂ (fun s f => ∃ t, f = (s.name, t) ∧ takeSection inputs s = .ok t) ss fields := by
  induction ss generalizing fields with
  | nil => simp [readSections, eq_comm]
  | cons s rest ih =>
    rw [List.forall₂_cons_left_iff]
    simp only [← ih]
    unfold takeSection
    cases hrest : readSections inputs rest with
    | error errors =>
      cases hinput : input? inputs s.name with
      | none => simp [readSections, hrest, hinput]
      | some t =>
        cases hread : readSection s t <;>
          simp [readSections, hrest, hinput, hread, mapError_ok, mapError_error]
    | ok more =>
      cases hinput : input? inputs s.name with
      | none => simp [readSections, hrest, hinput, eq_comm]
      | some t =>
        cases hread : readSection s t <;>
          simp [readSections, hrest, hinput, hread, mapError_ok, mapError_error, eq_comm]

theorem input?_cons (m : Text) (t : ConfigTree) (rest : ModelInputs) (n : Text) :
    input? ((m, t) :: rest) n = if m = n then some t else input? rest n := by
  by_cases h : m = n
  · simp [input?, h]
  · simp [input?, h]

/-- The input of a name among the entries of a mapping is the value under it. -/
theorem input?_namedEntries (es : List (Value × Value)) (n : Text) :
    input? (namedEntries es) n = (Value.lookup? (.text n) es).map leaf := by
  induction es with
  | nil => rfl
  | cons e rest ih =>
    obtain ⟨k, v⟩ := e
    rw [Value.lookup?_cons_text]
    cases k with
    | text m =>
      have hcons : namedEntries ((.text m, v) :: rest) = (m, leaf v) :: namedEntries rest := rfl
      rw [hcons, input?_cons, ih]
      simp only [Value.text.injEq]
      split <;> rfl
    | _ => rw [if_neg nofun]; exact ih

end ConfigTree

end Registry
