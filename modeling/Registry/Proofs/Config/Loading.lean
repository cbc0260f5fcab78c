import Registry.Config.Load
import Registry.Proofs.Environment
import Registry.Proofs.Text.Utf8
import Registry.Proofs.Yaml.Document

/-!
# Errors of loading

Loading is meant to fail with an error that tells what is wrong with the configuration: a variable
that is missing, a document that is malformed or empty, inputs that are refused. It does so exactly
if the document, with its variables put in, has a certain form (`ConfigTree.load_announced_iff`): if
it is not empty it is a mapping, whose entry `config` is a mapping of texts if there is one, and its
scalars are what their tags promise, or are at least wrong values. A document of another form ends
loading in another way, and the shortest ones are a number (`ConfigTree.load_number`).
-/

namespace Registry

/-- The error is one that loading announces, as a wrong value. Of the faults of a document these are
malformed text and those that are wrong values themselves. -/
def LoadError.IsAnnounced : LoadError → Prop
  | template _ => True
  | document e => e.group = .syntactic ∨ e.group = .value
  | empty => True
  | invalid _ => True
  | _ => False

/-- The document is a mapping, and what it has for the configuration is a mapping of texts. -/
def Yaml.Document.HasInputs (d : Document) : Prop :=
  ∃ entries, d.cell d.root = .dict entries ∧
    ∀ n ∈ nodeUnder? ConfigTree.entryName entries,
      ∃ inputs, d.cell n = .dict inputs ∧ ∀ e ∈ inputs, ∃ name, e.1 = .text name

/-- The text has a form that is foreseen: if it is no document, its fault is one that is announced,
and if it is one, the document is empty or has inputs. -/
structure Yaml.IsForeseen (t : Text) : Prop where
  fault : ∀ e, Document.ofText t = .error e → e.group = .syntactic ∨ e.group = .value
  document : ∀ d, Document.ofText t = .ok (some d) → d.isEmpty = true ∨ d.HasInputs

theorem Yaml.isForeseen_iff {t : Text} : IsForeseen t ↔ match Document.ofText t with
    | .error e => e.group = .syntactic ∨ e.group = .value
    | .ok none => True
    | .ok (some d) => d.isEmpty = true ∨ d.HasInputs := by
  constructor
  · rintro ⟨hfault, hdocument⟩
    split
    · next e he => exact hfault e he
    · trivial
    · next d hd => exact hdocument d hd
  · intro h
    constructor
    · intro e he
      rwa [he] at h
    · intro d hd
      rwa [hd] at h

namespace ConfigTree

/-- There is a configuration, or an error that is announced. -/
def IsAnnounced (outcome : Except LoadError ConfigTree) : Prop :=
  (∃ c, outcome = .ok c) ∨ ∃ e, outcome = .error e ∧ e.IsAnnounced

theorem isAnnounced_error_iff {e : LoadError} : IsAnnounced (.error e) ↔ e.IsAnnounced := by
  constructor
  · rintro (⟨c, hc⟩ | ⟨e', he, h⟩)
    · cases hc
    · cases he
      exact h
  · exact fun h => .inr ⟨e, rfl, h⟩

theorem isAnnounced_invalid {x : Except (List FieldError) ConfigTree} :
    IsAnnounced (x.mapError .invalid) := by
  cases x with
  | error errors => exact .inr ⟨_, rfl, trivial⟩
  | ok c => exact .inl ⟨c, rfl⟩

/-- The entries of a mapping are inputs if all have names. -/
theorem exists_inputsOf?_iff {entries : List (Value × Value)} :
    (∃ inputs, inputsOf? entries = some inputs) ↔ Value.HasNames entries := by
  unfold inputsOf? Value.HasNames
  induction entries with
  | nil => exact iff_of_true ⟨[], rfl⟩ nofun
  | cons e rest ih =>
    obtain ⟨k, v⟩ := e
    rw [List.forall_mem_cons, ← ih, List.mapM_cons]
    cases k with
    | text name => simp [Option.bind_eq_some_iff]
    | _ => simp

/-! ## Documents -/

variable {d : Yaml.Document}

theorem ofDocument_of_ne (hempty : d.isEmpty = false)
    (h : ∀ es, d.value documentDepth ≠ .dict es) :
    ofDocument d = .error (.noEntries (d.value documentDepth)) := by
  unfold ofDocument
  rw [hempty, if_neg Bool.false_ne_true]
  split
  · next es hes => exact absurd hes (h es)
  · rfl

theorem ofDocument_of_dict (hempty : d.isEmpty = false) {es : List (Value × Value)}
    (h : d.value documentDepth = .dict es) :
    IsAnnounced (ofDocument d) ↔ ∀ v, Value.lookup? (.text entryName) es = some v →
      ∃ inputs, v = .dict inputs ∧ Value.HasNames inputs := by
  unfold ofDocument
  rw [hempty, if_neg Bool.false_ne_true, h]
  simp only
  cases hentry : Value.lookup? (.text entryName) es with
  | none => exact iff_of_true isAnnounced_invalid nofun
  | some v =>
    simp only [Option.getD_some, Option.some.injEq, forall_eq']
    split
    · next inputs =>
      simp only [Value.dict.injEq, exists_eq_left', ← exists_inputsOf?_iff]
      cases inputsOf? inputs with
      | none => exact iff_of_false (fun h => isAnnounced_error_iff.mp h) nofun
      | some named => exact iff_of_true isAnnounced_invalid ⟨named, rfl⟩
    · next hv =>
      refine iff_of_false (fun h => isAnnounced_error_iff.mp h) ?_
      rintro ⟨inputs, rfl, -⟩
      exact hv inputs rfl

/-- A document is announced if it is empty or has inputs. -/
theorem isAnnounced_ofDocument_iff (hscalar : ∀ n v, d.cell n = .leaf v → v.IsScalar) :
    IsAnnounced (ofDocument d) ↔ d.isEmpty = true ∨ d.HasInputs := by
  cases hempty : d.isEmpty with
  | true =>
    rw [ofDocument, hempty]
    exact iff_of_true (isAnnounced_error_iff.mpr trivial) (.inl rfl)
  | false =>
    rw [or_iff_right Bool.false_ne_true]
    by_cases hroot : ∃ entries, d.cell d.root = .dict entries
    · obtain ⟨entries, hroot⟩ := hroot
      obtain ⟨es, hes, hlookup, -⟩ := Yaml.Document.valueOf_of_dict hroot 3
      simp only [ofDocument_of_dict hempty hes, hlookup, Yaml.Document.HasInputs, hroot,
        Yaml.Cell.dict.injEq, exists_eq_left', Option.map_eq_some_iff, forall_exists_index, and_imp,
        forall_apply_eq_imp_iff₂, Option.mem_def,
        Yaml.Document.exists_valueOf_hasNames_iff (hscalar _)]
    · have hne : ∀ es, d.value documentDepth ≠ .dict es :=
        Yaml.Document.valueOf_ne_dict (hscalar _) (not_exists.mp hroot) 3
      rw [ofDocument_of_ne hempty hne, isAnnounced_error_iff]
      refine iff_of_false id ?_
      rintro ⟨entries, hentries, -⟩
      exact hroot ⟨entries, hentries⟩

/-! ## Files -/

theorem ofTemplate_of_error {env : Environment} {t : Text} {e : Template.TemplateError}
    (h : Template.substitute env t = .error e) : ofTemplate env t = .error (.template e) := by
  unfold ofTemplate
  rw [h]
  rfl

theorem ofTemplate_of_ok {env : Environment} {t u : Text}
    (h : Template.substitute env t = .ok u) :
    ofTemplate env t = match Yaml.Document.ofText u with
      | .error e => .error (.document e)
      | .ok none => .error .empty
      | .ok (some d) => ofDocument d := by
  unfold ofTemplate
  rw [h]
  show ((Yaml.Document.ofText u).mapError LoadError.document >>= _) = _
  cases Yaml.Document.ofText u with
  | error e => rfl
  | ok found => cases found <;> rfl

theorem isAnnounced_ofTemplate_iff {env : Environment} {t : Text} :
    IsAnnounced (ofTemplate env t)
      ↔ ∀ u, Template.substitute env t = .ok u → Yaml.IsForeseen u := by
  cases hsubstitute : Template.substitute env t with
  | error e =>
    rw [ofTemplate_of_error hsubstitute]
    exact iff_of_true (isAnnounced_error_iff.mpr trivial) nofun
  | ok u =>
    rw [ofTemplate_of_ok hsubstitute]
    simp only [Except.ok.injEq, forall_eq', Yaml.isForeseen_iff]
    cases hdocument : Yaml.Document.ofText u with
    | error e => exact isAnnounced_error_iff
    | ok found =>
      cases found with
      | none => exact isAnnounced_error_iff
      | some d =>
        exact isAnnounced_ofDocument_iff fun n v => Yaml.Document.isScalar_of_ofText hdocument

def activeMode (env : Environment) : Text :=
  (env.get? deploymentVariable).getD (Text.ofString "development")

/-- A file that can be read is loaded as a template, with the overrides of the active deployment. -/
theorem load_eq {h : Host} {path t : Text} (hread : h.files.readText path = .ok t)
    (hunnamed : h.environment.get?
      (Environment.overridePrefix (activeMode h.environment)) = none) :
    (load h path).1 = ofTemplate (h.environment.applyOverrides (activeMode h.environment)).1 t := by
  have hdone : (h.environment.applyOverrides (activeMode h.environment)).2 = true :=
    Environment.setAll_done (Environment.overrides_named hunnamed)
  obtain ⟨env, hpair⟩ : ∃ env,
      h.environment.applyOverrides (activeMode h.environment) = (env, true) :=
    ⟨_, Prod.ext rfl hdone⟩
  rw [hpair]
  unfold activeMode at hpair
  unfold load
  rw [hread]
  simp only [hpair]

/-- Loading a file gives a configuration or an announced error exactly if the text of the file, with
the variables put in after the overrides of the active deployment, has a foreseen form. -/
theorem load_announced_iff {h : Host} {path t : Text} (hread : h.files.readText path = .ok t)
    (hunnamed : h.environment.get?
      (Environment.overridePrefix (activeMode h.environment)) = none) :
    ((∃ c, (load h path).1 = .ok c) ∨ ∃ e, (load h path).1 = .error e ∧ e.IsAnnounced)
      ↔ ∀ u, Template.substitute (h.environment.applyOverrides (activeMode h.environment)).1 t
        = .ok u → Yaml.IsForeseen u := by
  rw [load_eq hread hunnamed]
  exact isAnnounced_ofTemplate_iff

theorem exists_of_isOk {ε α : Type} {x : Except ε α} (h : x.isOk = true) : ∃ a, x = .ok a := by
  cases x with
  | error e => cases h
  | ok a => exact ⟨a, rfl⟩

def fileHost (env : Environment) (t : Text) : Host :=
  ⟨env, [("config.yaml", .data (Utf8.encode t))]⟩

theorem readText_fileHost (env : Environment) {t : Text} (h : t.NoSurrogates) :
    (fileHost env t).files.readText "config.yaml" = .ok (Text.unifyNewlines t) := by
  have hfind : (fileHost env t).files.find? "config.yaml" = some (.data (Utf8.encode t)) := rfl
  unfold Files.readText
  rw [hfind]
  simp only [Utf8.decodeStrict_encode h]
  rfl

/-- A host whose file has a variable in it, which is overridden for tests. -/
def namedHost : Host :=
  fileHost [("APP_ENVIRONMENT", "test"), ("TEST_NAME", "registry")]
    "config: \x7bapp: \x7bname: $\x7bNAME\x7d\x7d\x7d"

/-- The text of the file with the variable put in. -/
def namedText : Text := "config: \x7bapp: \x7bname: registry\x7d\x7d"

theorem load_announced_iff_named :
    (∃ c, (load namedHost "config.yaml").1 = .ok c) ∧ Yaml.IsForeseen namedText := by
  have hread : namedHost.files.readText "config.yaml"
      = .ok "config: \x7bapp: \x7bname: $\x7bNAME\x7d\x7d\x7d" :=
    (readText_fileHost _ (by decide +kernel)).trans (by decide +kernel)
  have hunnamed : namedHost.environment.get?
      (Environment.overridePrefix (activeMode namedHost.environment)) = none := by decide +kernel
  have hsubstitute : Template.substitute
      (namedHost.environment.applyOverrides (activeMode namedHost.environment)).1
      "config: \x7bapp: \x7bname: $\x7bNAME\x7d\x7d\x7d" = .ok namedText := by decide +kernel
  have hloaded : (ofTemplate
      (namedHost.environment.applyOverrides (activeMode namedHost.environment)).1
      "config: \x7bapp: \x7bname: $\x7bNAME\x7d\x7d\x7d").isOk = true := by decide +kernel
  obtain ⟨c, hc⟩ := exists_of_isOk hloaded
  have hconfig : ∃ c, (load namedHost "config.yaml").1 = .ok c :=
    ⟨c, (load_eq hread hunnamed).trans hc⟩
  exact ⟨hconfig, (load_announced_iff hread hunnamed).mp (.inl hconfig) namedText hsubstitute⟩

/-- A host whose file holds a number. -/
def numberHost : Host := fileHost [] "5"

/-- A number is no configuration, and the error is none that is announced. -/
theorem load_number :
    numberHost.files.readText "config.yaml" = .ok "5"
      ∧ numberHost.environment.get?
        (Environment.overridePrefix (activeMode numberHost.environment)) = none
      ∧ ¬((∃ c, (load numberHost "config.yaml").1 = .ok c)
        ∨ ∃ e, (load numberHost "config.yaml").1 = .error e ∧ e.IsAnnounced) := by
  have hread : numberHost.files.readText "config.yaml" = .ok "5" :=
    (readText_fileHost [] (by decide +kernel)).trans (by decide +kernel)
  have hunnamed : numberHost.environment.get?
      (Environment.overridePrefix (activeMode numberHost.environment)) = none := by decide +kernel
  have hsubstitute : Template.substitute
      (numberHost.environment.applyOverrides (activeMode numberHost.environment)).1 "5"
      = .ok "5" := by decide +kernel
  have hvalue : (Yaml.Document.ofText "5").map (·.map fun d => (d.isEmpty, d.value documentDepth))
      = .ok (some (false, .int 5)) := by decide +kernel
  refine ⟨hread, hunnamed, ?_⟩
  obtain ⟨found, hdocument, hfound⟩ := map_eq_ok.mp hvalue
  obtain ⟨d, rfl, hd⟩ := Option.map_eq_some_iff.mp hfound
  obtain ⟨hempty, hvalue⟩ := Prod.mk.inj hd
  have hne : ∀ es, d.value documentDepth ≠ .dict es := by
    rw [hvalue]
    exact nofun
  rw [load_eq hread hunnamed, ofTemplate_of_ok hsubstitute, hdocument]
  simp only [ofDocument_of_ne hempty hne]
  exact fun h => isAnnounced_error_iff.mp h

end ConfigTree

end Registry
