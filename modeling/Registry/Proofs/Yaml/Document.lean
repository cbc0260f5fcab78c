import Registry.Proofs.Outcome
import Registry.Proofs.Value.Entries
import Registry.Yaml.Document

/-!
# Values of documents

The values that the nodes of a document have outside containers are scalars
(`Document.isScalar_of_ofText`): each step that finds values keeps them so. Hence a value that is
spelled out, to whatever depth, is a mapping if its node is one (`Document.valueOf_of_dict`) and
only then (`Document.valueOf_ne_dict`).
-/

namespace Registry

def Value.IsScalar : Value → Prop
  | null | bool _ | int _ | float _ | text _ | bytes _ | date _ | dateTime _ => True
  | _ => False

namespace Yaml

/-! ## Scalars -/

namespace Scalar

theorem isScalar_timestamp {t : Text} {v : Value} (h : timestamp t = .ok v) : v.IsScalar := by
  unfold timestamp at h
  split at h
  · cases h
  split at h
  · obtain ⟨d, -, rfl⟩ := map_eq_ok.mp (mapError_eq_ok.mp h)
    exact trivial
  · have h := mapError_eq_ok.mp h
    obtain ⟨offset, -, h⟩ := bind_eq_ok.mp h
    obtain ⟨date, -, h⟩ := bind_eq_ok.mp h
    obtain ⟨clock, -, h⟩ := bind_eq_ok.mp h
    cases h
    exact trivial

theorem isScalar_value {object : Nat} {kind : Kind} {t : Text} {v : Value}
    (h : value object kind t = .ok v) : v.IsScalar := by
  cases kind with
  | null | text =>
    cases h
    exact trivial
  | truth | int | float | binary =>
    obtain ⟨x, -, rfl⟩ := map_eq_ok.mp h
    exact trivial
  | timestamp => exact isScalar_timestamp h
  | _ => cases h

end Scalar

/-! ## Finding values -/

/-- A value that is found outside containers is a scalar. -/
def Cell.Sound : Cell → Prop
  | .leaf v => v.IsScalar
  | _ => True

namespace Filling

/-- All values that are found outside containers are scalars. -/
def Sound (f : Filling) : Prop := ∀ (n : Nat) (c : Cell), f.cells[n]? = some (some c) → c.Sound

/-- A step after which, if it succeeds, all is sound that was sound before. -/
def KeepsSound {α : Type} (step : Fill α) : Prop :=
  ∀ f a f', Sound f → step.run f = .ok (a, f') → Sound f'

section

variable {α β : Type}

theorem keepsSound_pure (a : α) : KeepsSound (pure a : Fill α) := by
  intro f b f' hf h
  cases h
  exact hf

theorem keepsSound_throw (e : YamlFault) : KeepsSound (throw e : Fill α) := nofun

theorem keepsSound_bind {step : Fill α} {next : α → Fill β} (hstep : KeepsSound step)
    (hnext : ∀ a, KeepsSound (next a)) : KeepsSound (step >>= next) := by
  intro f b f'' hf h
  obtain ⟨⟨a, f'⟩, ha, hb⟩ := bind_eq_ok.mp h
  exact hnext a f' b f'' (hstep f a f' hf ha) hb

/-- What is computed without finding anything changes nothing. -/
theorem keepsSound_lift {x : Except YamlFault α} {next : α → Fill β}
    (hnext : ∀ a, x = .ok a → KeepsSound (next a)) : KeepsSound ((x : Fill α) >>= next) := by
  intro f b f' hf h
  obtain ⟨⟨a, f₁⟩, ha, hb⟩ := bind_eq_ok.mp h
  obtain ⟨a', hx, heq⟩ := bind_eq_ok.mp ha
  cases heq
  exact hnext a hx f b f' hf hb

theorem keepsSound_get : KeepsSound (get : Fill Filling) := by
  intro f a f' hf h
  cases h
  exact hf

theorem keepsSound_modify {g : Filling → Filling} (h : ∀ f, Sound f → Sound (g f)) :
    KeepsSound (modify g : Fill Unit) := by
  intro f a f' hf heq
  cases heq
  exact h f hf

theorem keepsSound_forM {step : α → Fill Unit} (h : ∀ a, KeepsSound (step a)) (as : List α) :
    KeepsSound (as.forM step) := by
  induction as with
  | nil => exact keepsSound_pure ()
  | cons a as ih =>
    show KeepsSound (step a >>= fun _ => as.forM step)
    exact keepsSound_bind (h a) fun _ => ih

theorem keepsSound_mapM {step : α → Fill β} (h : ∀ a, KeepsSound (step a)) (as : List α) :
    KeepsSound (as.mapM step) := by
  induction as with
  | nil => exact keepsSound_pure []
  | cons a as ih =>
    rw [List.mapM_cons]
    exact keepsSound_bind (h a) fun _ => keepsSound_bind ih fun _ => keepsSound_pure _

end

theorem keepsSound_nodeOf (n : Nat) : KeepsSound (nodeOf n) :=
  keepsSound_bind keepsSound_get fun _ => keepsSound_pure _

theorem keepsSound_cell? (n : Nat) : KeepsSound (cell? n) :=
  keepsSound_bind keepsSound_get fun _ => keepsSound_pure _

theorem keepsSound_setCell (n : Nat) {c : Cell} (hc : c.Sound) : KeepsSound (setCell n c) := by
  refine keepsSound_modify fun f hf m d hd => ?_
  rw [Array.set!_eq_setIfInBounds, Array.getElem?_setIfInBounds] at hd
  split at hd
  · split at hd
    · cases hd
      exact hc
    · cases hd
  · exact hf m d hd

theorem keepsSound_await (n : Nat) {c : Cell} (hc : c.Sound) : KeepsSound (await n c) :=
  keepsSound_bind (keepsSound_setCell n hc) fun _ => keepsSound_modify fun _ hf => hf

theorem isScalar_scalarValue {g : Graph} {n : Nat} {v : Value} (h : scalarValue g n = .ok v) :
    v.IsScalar := by
  obtain ⟨t, -, h⟩ := bind_eq_ok.mp h
  split at h
  · cases h
  · exact Scalar.isScalar_value h

theorem keepsSound_visit (n : Nat) : KeepsSound (visit n) := by
  unfold visit
  refine keepsSound_bind (keepsSound_cell? n) fun c => ?_
  split
  · exact keepsSound_pure ()
  refine keepsSound_bind (keepsSound_nodeOf n) fun x => ?_
  split
  iterate 5
    exact keepsSound_await n trivial
  iterate 3
    exact keepsSound_throw _
  refine keepsSound_bind keepsSound_get fun f => keepsSound_lift fun v hv => ?_
  exact keepsSound_setCell n (isScalar_scalarValue hv)

theorem keepsSound_visitKey (n : Nat) : KeepsSound (visitKey n) := by
  refine keepsSound_bind (keepsSound_visit n) fun _ => ?_
  refine keepsSound_bind (keepsSound_cell? n) fun c => ?_
  split
  · exact keepsSound_pure _
  · exact keepsSound_throw _

theorem keepsSound_visitEntries (n : Nat) : KeepsSound (visitEntries n) := by
  refine keepsSound_bind keepsSound_get fun f => keepsSound_lift fun graph _ => ?_
  refine keepsSound_bind (keepsSound_modify fun _ hf => hf) fun _ => ?_
  refine keepsSound_mapM (fun entry => ?_) _
  refine keepsSound_bind (keepsSound_visitKey entry.1) fun key => ?_
  exact keepsSound_bind (keepsSound_visit entry.2) fun _ => keepsSound_pure _

theorem keepsSound_visitPair (n : Nat) : KeepsSound (visitPair n) := by
  refine keepsSound_bind (keepsSound_nodeOf n) fun x => ?_
  split
  · refine keepsSound_bind (keepsSound_visit _) fun _ => ?_
    exact keepsSound_bind (keepsSound_visit _) fun _ => keepsSound_pure _
  · exact keepsSound_throw _

theorem keepsSound_fill (n : Nat) : KeepsSound (fill n) := by
  refine keepsSound_bind (keepsSound_nodeOf n) fun x => ?_
  split
  · exact keepsSound_bind (keepsSound_forM keepsSound_visit _) fun _ =>
      keepsSound_setCell n trivial
  · exact keepsSound_bind (keepsSound_visitEntries n) fun _ => keepsSound_setCell n trivial
  · exact keepsSound_bind (keepsSound_visitEntries n) fun _ => keepsSound_setCell n trivial
  · exact keepsSound_bind (keepsSound_mapM keepsSound_visitPair _) fun _ =>
      keepsSound_setCell n trivial
  · exact keepsSound_bind (keepsSound_mapM keepsSound_visitPair _) fun _ =>
      keepsSound_setCell n trivial
  · exact keepsSound_throw _

theorem keepsSound_fillAll (fuel : Nat) : KeepsSound (fillAll fuel) := by
  induction fuel with
  | zero => exact keepsSound_pure ()
  | succ fuel ih =>
    refine keepsSound_bind keepsSound_get fun f => ?_
    dsimp only
    split
    · refine keepsSound_bind (keepsSound_modify fun _ hf => hf) fun _ => ?_
      exact keepsSound_bind (keepsSound_forM keepsSound_fill _) fun _ => ih
    · exact keepsSound_pure ()

end Filling

/-! ## Documents -/

namespace Document

theorem sound_cell {d : Document}
    (h : ∀ (n : Nat) (c : Cell), d.cells[n]? = some (some c) → c.Sound) (n : Nat) :
    (d.cell n).Sound := by
  unfold cell
  cases hcell : d.cells[n]? with
  | none => exact trivial
  | some found =>
    cases found with
    | none => exact trivial
    | some c => exact h n c hcell

theorem sound_ofGraph {g : Graph} {root : Nat} {d : Document} (h : ofGraph g root = .ok d)
    (n : Nat) : (d.cell n).Sound := by
  obtain ⟨⟨_, f⟩, hrun, rfl⟩ := map_eq_ok.mp h
  have hsteps : Filling.KeepsSound (do
      Filling.visit root
      Filling.fillAll (g.size + 1)) :=
    Filling.keepsSound_bind (Filling.keepsSound_visit root) fun _ =>
      Filling.keepsSound_fillAll _
  have hnone : Filling.Sound ⟨g, Array.replicate g.size none, []⟩ := by
    intro m c hc
    rw [Array.getElem?_replicate] at hc
    split at hc <;> cases hc
  exact @sound_cell ⟨f.cells, root⟩ (hsteps _ _ f hnone hrun) n

/-- What a node of a document has for its value outside containers is a scalar. -/
theorem isScalar_of_ofText {t : Text} {d : Document} (h : ofText t = .ok (some d)) {n : Nat}
    {v : Value} (hv : d.cell n = .leaf v) : v.IsScalar := by
  obtain ⟨⟨g, root⟩, -, h⟩ := bind_eq_ok.mp h
  have hsound : (d.cell n).Sound := by
    cases root with
    | none => cases h
    | some root =>
      obtain ⟨d', hd, heq⟩ := bind_eq_ok.mp h
      cases heq
      exact sound_ofGraph hd n
  rw [hv] at hsound
  exact hsound

/-! ## Spelling out values -/

variable {d : Document} {n : Nat}

/-- The node of the last of the entries under a name. -/
def nodeUnder? (name : Text) (entries : List (Value × Nat)) : Option Nat :=
  (entries.reverse.find? fun e => e.1 = .text name).map Prod.snd

/-- The node of a mapping is spelled out entry by entry. -/
theorem valueOf_of_dict {entries : List (Value × Nat)} (h : d.cell n = .dict entries)
    (depth : Nat) : ∃ es, d.valueOf (depth + 1) n = .dict es
      ∧ (∀ name, Value.lookup? (.text name) es
        = (nodeUnder? name entries).map (d.valueOf depth))
      ∧ (Value.HasNames es ↔ ∀ e ∈ entries, ∃ name, e.1 = .text name) := by
  refine ⟨_, by rw [valueOf, h]; rfl, fun name => ?_, ?_⟩
  · rw [Value.lookup?_foldl_put, ← List.map_reverse, List.find?_map, nodeUnder?, Option.map_map,
      Option.map_map]
    rfl
  · rw [Value.hasNames_foldl_put]
    simp only [Value.HasNames, List.forall_mem_map]

/-- Any other node has another value. -/
theorem valueOf_ne_dict (hscalar : ∀ v, d.cell n = .leaf v → v.IsScalar)
    (h : ∀ entries, d.cell n ≠ .dict entries) (depth : Nat) (es : List (Value × Value)) :
    d.valueOf (depth + 1) n ≠ .dict es := by
  rw [valueOf]
  cases hcell : d.cell n with
  | leaf v =>
    rintro rfl
    exact hscalar _ hcell
  | dict entries => exact absurd hcell (h entries)
  | _ => exact nofun

/-- A node is spelled out as a mapping of texts exactly if it is one. -/
theorem exists_valueOf_hasNames_iff (hscalar : ∀ v, d.cell n = .leaf v → v.IsScalar)
    (depth : Nat) : (∃ es, d.valueOf (depth + 1) n = .dict es ∧ Value.HasNames es)
      ↔ ∃ entries, d.cell n = .dict entries ∧ ∀ e ∈ entries, ∃ name, e.1 = .text name := by
  by_cases hdict : ∃ entries, d.cell n = .dict entries
  · obtain ⟨entries, hcell⟩ := hdict
    obtain ⟨es, hes, -, hnames⟩ := valueOf_of_dict hcell depth
    simp only [hes, hcell, Value.dict.injEq, Cell.dict.injEq, exists_eq_left', hnames]
  · refine iff_of_false ?_ fun ⟨entries, hcell, _⟩ => hdict ⟨entries, hcell⟩
    rintro ⟨es, hes, -⟩
    exact valueOf_ne_dict hscalar (not_exists.mp hdict) depth es hes

end Document

end Yaml

end Registry
