import Registry.Engine.Arguments
import Registry.Proofs.DatabaseUrl.ReadBack

/-!
# The dialect in the arguments of an engine

What connections are told goes by words that are anywhere in the address, and the sizes of the pool
by its beginning (`ConnectArguments.ofConfig_eq`, `PoolSettings.ofConfig_eq`). An address begins with
the name of its dialect, but may have such a word in another part. The arguments are those of the
dialect exactly if no word there misleads (`EngineArguments.agree_iff`).
-/

namespace Registry

/-! ## By words -/

/-- What connections are told by the words in an address. -/
def ConnectArguments.ofWords (url : Text) (app : AppSettings) : ConnectArguments :=
  if Text.hasInfix "postgresql" url then
    .postgresql (app.name ++ Text.ofString "_" ++ app.environment.name)
  else if Text.hasInfix "sqlite" url then .sqlite
  else .none

/-- The sizes of a pool that has any. -/
def PoolSettings.ofSettings (s : DatabaseSettings) : PoolSettings :=
  ⟨s.poolSize, s.maxOverflow, s.poolTimeout, s.poolRecycle⟩

/-- The pool by the beginning of an address. -/
def PoolSettings.ofBeginning (url : Text) (s : DatabaseSettings) : Option PoolSettings :=
  if Text.ofString "sqlite" <+: url then none else some (ofSettings s)

section Words

variable {c : Config} {url : Text} {app : AppSettings}

theorem ConfigTree.addressSetting_eq_ok {database : ConfigTree}
    (hsection : database.isSection .database = true)
    (hurl : database.setting "url" = .leaf (.text url)) :
    database.addressSetting = .ok (.leaf (.text url)) := by
  rw [addressSetting, if_pos hsection, hurl]

theorem ConnectArguments.ofConfig_eq (hsection : c.database.isSection .database = true)
    (hurl : c.database.setting "url" = .leaf (.text url))
    (happ : AppSettings.ofSection c.app "name" = .ok app) :
    ofConfig c = .ok (ofWords url app) := by
  unfold ofConfig ofWords
  rw [ConfigTree.addressSetting_eq_ok hsection hurl, happ]
  simp only [ConfigTree.mentions, bind, Except.bind]
  split
  · rfl
  split
  · rfl
  · rfl

theorem PoolSettings.ofConfig_eq (hsection : c.database.isSection .database = true)
    (hurl : c.database.setting "url" = .leaf (.text url)) :
    ofConfig c = .ok (ofBeginning url (.ofTree c.database)) := by
  unfold ofConfig ofBeginning
  rw [ConfigTree.addressSetting_eq_ok hsection hurl]
  simp only [Text.isSome_dropPrefix?_iff, bind, Except.bind]
  split
  · rfl
  · rfl

/-- The settings of the application do not depend on the name that is asked for first. -/
theorem AppSettings.ofSection_congr {t : ConfigTree} {name : Text} (h : ofSection t name = .ok app)
    (other : Text) : ofSection t other = .ok app := by
  unfold ofSection at h ⊢
  split at h
  · next hsection => rw [if_pos hsection, h]
  · cases h

theorem EngineArguments.ofConfig_eq (h : Host) (hsection : c.database.isSection .database = true)
    (hurl : c.database.setting "url" = .leaf (.text url))
    (happ : AppSettings.ofSection c.app "name" = .ok app) :
    ofConfig c h = ((DatabaseSettings.ofTree c.database).connectionString h).map fun t =>
      ⟨t, .ofWords url app, PoolSettings.ofBeginning url (.ofTree c.database)⟩ := by
  unfold ofConfig
  rw [AppSettings.ofSection_congr happ, ConnectArguments.ofConfig_eq hsection hurl happ,
    PoolSettings.ofConfig_eq hsection hurl]
  rfl

end Words

/-! ## By dialect -/

/-- What the connections of a dialect are to be told. -/
def ConnectArguments.ofDialect (dialect : Text) (app : AppSettings) : ConnectArguments :=
  if dialect = "postgresql" then
    .postgresql (app.name ++ Text.ofString "_" ++ app.environment.name)
  else if dialect = "sqlite" then .sqlite
  else .none

/-- The pool that the connections of a dialect are to have. -/
def PoolSettings.ofDialect (dialect : Text) (s : DatabaseSettings) : Option PoolSettings :=
  if dialect = "sqlite" then none else some (ofSettings s)

/-- No word for another dialect is found in the address before one for its own dialect. -/
def NoWordMisleads (dialect url : Text) : Prop :=
  (dialect = "sqlite" → ¬Text.ofString "postgresql" <:+: url)
    ∧ (dialect ≠ "postgresql" → dialect ≠ "sqlite" →
      ¬Text.ofString "postgresql" <:+: url ∧ ¬Text.ofString "sqlite" <:+: url)

section Dialect

variable {dialect url : Text}

/-- What connections are told is right by the words exactly if none misleads. -/
theorem ConnectArguments.ofWords_eq_iff (app : AppSettings) (hbegins : dialect <+: url) :
    ofWords url app = ofDialect dialect app ↔ NoWordMisleads dialect url := by
  unfold ofWords ofDialect NoWordMisleads
  simp only [Text.hasInfix_iff]
  by_cases hpostgresql : dialect = "postgresql"
  · subst hpostgresql
    rw [if_pos hbegins.isInfix, if_pos rfl]
    exact iff_of_true rfl ⟨fun h => absurd h (by decide), fun h => absurd rfl h⟩
  rw [if_neg hpostgresql]
  by_cases hsqlite : dialect = "sqlite"
  · subst hsqlite
    rw [if_pos hbegins.isInfix, if_pos rfl]
    by_cases hword : Text.ofString "postgresql" <:+: url
    · rw [if_pos hword]
      exact iff_of_false nofun fun h => h.1 rfl hword
    · rw [if_neg hword]
      exact iff_of_true rfl ⟨fun _ => hword, fun _ h => absurd rfl h⟩
  rw [if_neg hsqlite]
  by_cases hword : Text.ofString "postgresql" <:+: url
  · rw [if_pos hword]
    exact iff_of_false nofun fun h => (h.2 hpostgresql hsqlite).1 hword
  by_cases hother : Text.ofString "sqlite" <:+: url
  · rw [if_neg hword, if_pos hother]
    exact iff_of_false nofun fun h => (h.2 hpostgresql hsqlite).2 hother
  · rw [if_neg hword, if_neg hother]
    exact iff_of_true rfl ⟨fun _ => hword, fun _ _ => ⟨hword, hother⟩⟩

/-- Where no word misleads, the pool is right by the beginning. -/
theorem NoWordMisleads.ofBeginning_eq (h : NoWordMisleads dialect url) (s : DatabaseSettings)
    (hbegins : dialect <+: url) :
    PoolSettings.ofBeginning url s = PoolSettings.ofDialect dialect s := by
  unfold PoolSettings.ofBeginning PoolSettings.ofDialect
  by_cases hsqlite : dialect = "sqlite"
  · subst hsqlite
    rw [if_pos hbegins, if_pos rfl]
  have hbeginning : ¬Text.ofString "sqlite" <+: url := by
    intro hbeginning
    by_cases hpostgresql : dialect = "postgresql"
    · subst hpostgresql
      exact absurd (List.prefix_of_prefix_length_le hbeginning hbegins (by decide)) (by decide)
    · exact (h.2 hpostgresql hsqlite).2 hbeginning.isInfix
  rw [if_neg hbeginning, if_neg hsqlite]

/-- Where an address is read, an engine is made with the arguments by words as soon as there is a
connection string; they are those of the dialect exactly if no word in the address misleads. -/
theorem EngineArguments.agree_iff {c : Config} {app : AppSettings} {u : DatabaseUrl}
    (hsection : c.database.isSection .database = true)
    (hurl : c.database.setting "url" = .leaf (.text url))
    (happ : AppSettings.ofSection c.app "name" = .ok app) (hread : DatabaseUrl.read url = .ok u) :
    ∃ connect pool, ConnectArguments.ofConfig c = .ok connect ∧ PoolSettings.ofConfig c = .ok pool
      ∧ (∀ h, ofConfig c h = ((DatabaseSettings.ofTree c.database).connectionString h).map
        fun t => ⟨t, connect, pool⟩)
      ∧ (connect = .ofDialect u.dialect app
          ∧ pool = PoolSettings.ofDialect u.dialect (.ofTree c.database)
        ↔ NoWordMisleads u.dialect url) := by
  have hbegins := DatabaseUrl.dialect_prefix_of_read hread
  refine ⟨_, _, ConnectArguments.ofConfig_eq hsection hurl happ,
    PoolSettings.ofConfig_eq hsection hurl, fun h => ofConfig_eq h hsection hurl happ, ?_⟩
  rw [ConnectArguments.ofWords_eq_iff app hbegins]
  exact and_iff_left_of_imp fun h => h.ofBeginning_eq _ hbegins

end Dialect

/-! ## A word in another part -/

def ConfigTree.addressed (url : Text) : ConfigTree :=
  .model .config
    [(Section.logging.name, .standardSection .logging),
      (Section.database.name, .model (.part .database)
        (putField (Section.database.settings.map fun x => (x.name, .leaf x.default)) "url"
          (.leaf (.text url))) ["url"]),
      (Section.app.name, .standardSection .app)]
    [Section.database.name]

theorem ConfigTree.addressed_ofInputs (url : Text) :
    ofInputs .config [(Section.database.name, .leaf (.dict [(.text "url", .text url)]))]
      = .ok (addressed url) := by
  rfl

namespace EngineArguments

def fileAddress (path : Text) : DatabaseUrl := ⟨"sqlite", none, none, none, none, some path, []⟩

theorem fileAddress_formed (path : Text) : (fileAddress path).Formed where
  driver_ne_nil := by
    show Text.ofString "sqlite" ≠ []
    decide
  driver := by
    show ∀ c ∈ Text.ofString "sqlite", DatabaseUrl.IsDriverPoint c
    decide +kernel
  password _ := rfl
  host_ne_nil := nofun
  host := nofun
  host_at _ := nofun
  port := nofun
  query := DatabaseUrl.QueryFormed.nil

theorem read_fileAddress {path : Text} (h : path.NoSurrogates) :
    DatabaseUrl.read (fileAddress path).text = .ok (fileAddress path) := by
  have hencodable : (fileAddress path).Encodable :=
    ⟨nofun, nofun, fun database hdatabase => by cases hdatabase; exact h,
      fun e he => absurd he List.not_mem_nil⟩
  rw [DatabaseUrl.read_text (fileAddress_formed path) hencodable nofun,
    DatabaseUrl.sorted_eq_self .nil]

theorem agree_iff_standard :
    ∃ connect pool, ConnectArguments.ofConfig (.ofTree .standard) = .ok connect
      ∧ PoolSettings.ofConfig (.ofTree .standard) = .ok pool
      ∧ connect = .sqlite ∧ pool = none := by
  have htext : (fileAddress "./identity.db").text = standardUrl := by decide +kernel
  have hread : DatabaseUrl.read standardUrl = .ok (fileAddress "./identity.db") := by
    rw [← htext]
    exact read_fileAddress (by decide)
  have happ : AppSettings.ofSection (Config.ofTree .standard).app "name"
      = .ok ⟨"identity-store", .development⟩ := rfl
  obtain ⟨connect, pool, hconnect, hpool, -, hagree⟩ :=
    agree_iff (c := .ofTree .standard) rfl rfl happ hread
  have hdialect : (fileAddress "./identity.db").dialect = "sqlite" := by decide +kernel
  rw [hdialect] at hagree
  have hword : ¬Text.ofString "postgresql" <:+: standardUrl := by
    rw [← Text.hasInfix_iff]
    decide +kernel
  obtain ⟨hsqlite, hnone⟩ := hagree.mpr ⟨fun _ => hword, fun _ h => absurd rfl h⟩
  exact ⟨connect, pool, hconnect, hpool, hsqlite, hnone⟩

/-- The driver for files gets arguments for a server when the name of the file has its word. -/
theorem connect_misled :
    ConfigTree.ofInputs .config
        [(Section.database.name, .leaf (.dict [(.text "url", .text "sqlite:///postgresql.db")]))]
      = .ok (.addressed "sqlite:///postgresql.db")
    ∧ DatabaseUrl.read "sqlite:///postgresql.db" = .ok (fileAddress "postgresql.db")
    ∧ (fileAddress "postgresql.db").dialect = "sqlite"
    ∧ ConnectArguments.ofConfig (.ofTree (.addressed "sqlite:///postgresql.db"))
      = .ok (.postgresql "identity-store_development")
    ∧ ConnectArguments.ofConfig (.ofTree (.addressed "sqlite:///postgresql.db")) ≠ .ok .sqlite := by
  have htext : (fileAddress "postgresql.db").text = "sqlite:///postgresql.db" := by decide +kernel
  have hread : DatabaseUrl.read "sqlite:///postgresql.db" = .ok (fileAddress "postgresql.db") := by
    rw [← htext]
    exact read_fileAddress (by decide)
  have hmisled : ConnectArguments.ofConfig (.ofTree (.addressed "sqlite:///postgresql.db"))
      = .ok (.postgresql "identity-store_development") := by rfl
  refine ⟨ConfigTree.addressed_ofInputs _, hread, by decide +kernel, hmisled, ?_⟩
  rw [hmisled]
  nofun

end EngineArguments

end Registry
