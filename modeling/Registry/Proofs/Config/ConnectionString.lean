import Registry.Config.Secret
import Registry.Proofs.DatabaseUrl.ReadBack

/-!
# Connection strings

The connection string is the text of the address with the password that was found, unless that is
empty (`DatabaseSettings.connectionString_eq`). It is read back as the address with this password
and no other change (`DatabaseSettings.connectionString_readBack`). In production the password comes
from a file or a variable, if one is named, and the one in the address is replaced; only an empty
file leaves it in its place (`DatabaseSettings.connectionString_ne_iff`).
-/

namespace Registry

/-! ## Addresses with a secret -/

namespace DatabaseUrl

variable {u : DatabaseUrl} {r : Option Text}

/-- The address with a password that was found: an empty one does not count. -/
def withSecret (u : DatabaseUrl) (r : Option Text) : DatabaseUrl :=
  { u with password := (Text.filled? r).or u.password }

theorem withSecret_filled {secret : Text} (h : secret ≠ []) :
    u.withSecret (some secret) = { u with password := some secret } := by
  have hfilled : Text.filled? (some secret) = some secret :=
    Option.filter_eq_some_iff.mpr ⟨rfl, by simpa using h⟩
  unfold withSecret
  rw [hfilled]
  rfl

theorem Formed.withSecret (h : u.Formed) (huser : u.user.isSome = true ∨ Text.filled? r = none) :
    (u.withSecret r).Formed :=
  { h with
    password := by
      intro hnone
      have hfilled : Text.filled? r = none := by
        rcases huser with hsome | hfilled
        · rw [show u.user = none from hnone] at hsome
          cases hsome
        · exact hfilled
      show (Text.filled? r).or u.password = none
      rw [hfilled, h.password hnone]
      rfl
    host_at := fun hp => h.host_at (Option.or_eq_none_iff.mp hp).2 }

/-- From texts without surrogates come an address and a password without them. -/
theorem withSecret_encodable {t : Text} (h : read t = .ok u) (ht : t.NoSurrogates)
    (hr : ∀ p ∈ r, p.NoSurrogates) : (u.withSecret r).Encodable := by
  have hencodable := read_encodable h ht
  refine { hencodable with password := fun p hp => ?_ }
  rcases Option.or_eq_some_iff.mp hp with hp | ⟨-, hp⟩
  · exact hr p (Option.eq_some_of_filter_eq_some hp)
  · exact hencodable.password p hp

/-- Texts of addresses that differ in their passwords differ. -/
theorem password_eq_of_text_eq {p q : Text} (huser : u.user.isSome = true) (hp : p.NoSurrogates)
    (hq : q.NoSurrogates)
    (h : { u with password := some p }.text = { u with password := some q }.text) : p = q := by
  obtain ⟨user, huser⟩ := Option.isSome_iff_exists.mp huser
  have huserText (p : Text) : { u with password := some p }.userText
      = encodeUser user ++ (Text.ofString ":" ++ encodeUser p) ++ Text.ofString "@" := by
    unfold userText
    simp only [huser]
  rw [text_eq, text_eq, huserText, huserText] at h
  have htail := List.append_cancel_left (List.append_cancel_left h)
  have hencoded : encodeUser p = encodeUser q :=
    List.append_cancel_left (List.append_cancel_left
      (List.append_cancel_right (List.append_cancel_right htail)))
  have hdecoded {p : Text} (hp : p.NoSurrogates) : Percent.decode (encodeUser p) = p :=
    Percent.decode_encoded rfl hp
  rw [← hdecoded hp, hencoded, hdecoded hq]

end DatabaseUrl

namespace DatabaseSettings

variable {s : DatabaseSettings} {h : Host} {u : DatabaseUrl} {r : Option Text}

theorem connectionString_eq (hurl : DatabaseUrl.read s.url = .ok u) (hr : s.password h = .ok r) :
    s.connectionString h = (u.withSecret r).render.mapError .url := by
  unfold connectionString address DatabaseUrl.withSecret
  rw [hurl, hr]
  simp only [mapError_ok, bind, Except.bind]
  cases Text.filled? r with
  | none => rfl
  | some p => rfl

/-- Changing an address into a connection string changes nothing but the password, and succeeds
exactly if no part that is escaped has surrogates, as none has that comes from a text without them. -/
theorem connectionString_readBack (hurl : DatabaseUrl.read s.url = .ok u)
    (hhost : u.HostUnbracketed) (hr : s.password h = .ok r)
    (huser : u.user.isSome = true ∨ Text.filled? r = none) :
    (s.url.NoSurrogates → (∀ p ∈ r, p.NoSurrogates) → (u.withSecret r).Encodable)
      ∧ ((∃ t, s.connectionString h = .ok t) ↔ (u.withSecret r).Encodable)
      ∧ ∀ t, s.connectionString h = .ok t → ∃ v, DatabaseUrl.read t = .ok v
        ∧ v.driver = u.driver ∧ v.user = u.user ∧ v.host = u.host ∧ v.port = u.port
        ∧ v.database = u.database ∧ v.query.Perm u.query
        ∧ v.password = (Text.filled? r).or u.password := by
  have hformed := (DatabaseUrl.read_formed hurl).withSecret huser
  have hiff {t : Text} : s.connectionString h = .ok t
      ↔ (u.withSecret r).Encodable ∧ t = (u.withSecret r).text := by
    rw [connectionString_eq hurl hr, mapError_eq_ok]
    exact DatabaseUrl.render_eq_ok_iff hformed
  refine ⟨DatabaseUrl.withSecret_encodable hurl, ?_, ?_⟩
  · constructor
    · rintro ⟨t, ht⟩
      exact (hiff.mp ht).1
    · intro hencodable
      exact ⟨_, hiff.mpr ⟨hencodable, rfl⟩⟩
  · intro t ht
    obtain ⟨hencodable, rfl⟩ := hiff.mp ht
    exact ⟨_, DatabaseUrl.read_text hformed hencodable hhost, rfl, rfl, rfl, rfl, rfl,
      DatabaseUrl.sortedQuery_perm _, rfl⟩

/-- An address with signs in its parts that separate parts. -/
def signedAddress : DatabaseUrl :=
  ⟨"postgresql+psycopg", some "a@b:c", some "old", some "::1", some 5432, some "d/é?",
    [("k&", ["v 1", "w="])]⟩

/-- A password with such signs. -/
def signedSecret : Text := "p@s:s/w?%+ é"

/-- A host where a variable has this password. -/
def signedHost : Host := ⟨[("DB_PASSWORD", signedSecret)], []⟩

/-- The settings of a system in production that has a variable for its password. -/
def named (url : Text) : DatabaseSettings :=
  { ofTree (ConfigTree.standardSection .database) with
    url := url, mode := .production, passwordVariable := some (.ok "DB_PASSWORD") }

theorem signedAddress_formed : signedAddress.Formed where
  driver_ne_nil := by decide
  driver := by decide +kernel
  password h := by cases h
  host_ne_nil := by decide
  host := by decide
  host_at h := by cases h
  port := by decide
  query := ⟨by decide, by decide⟩

theorem read_signedAddress : DatabaseUrl.read signedAddress.text = .ok signedAddress := by
  have hencodable : signedAddress.Encodable := ⟨by decide, by decide, by decide, by decide⟩
  rw [DatabaseUrl.read_text signedAddress_formed hencodable (by decide),
    DatabaseUrl.sorted_eq_self (List.pairwise_singleton _ _)]

theorem connectionString_readBack_signed :
    ∃ t v, (named signedAddress.text).connectionString signedHost = .ok t
      ∧ DatabaseUrl.read t = .ok v ∧ v.driver = "postgresql+psycopg" ∧ v.user = some "a@b:c"
      ∧ v.host = some "::1" ∧ v.port = some 5432 ∧ v.database = some "d/é?"
      ∧ v.query.Perm [("k&", ["v 1", "w="])] ∧ v.password = some signedSecret := by
  obtain ⟨hclean, hsome, hback⟩ := connectionString_readBack (s := named signedAddress.text)
    (h := signedHost) (r := some signedSecret) read_signedAddress (by decide) rfl (.inl rfl)
  obtain ⟨t, ht⟩ := hsome.mpr (hclean (by decide +kernel) (by decide))
  obtain ⟨v, hv⟩ := hback t ht
  exact ⟨t, v, ht, hv⟩

/-! ## Secrets in production -/

theorem passwordIn_eq_ok {find : Text → Except SecretError Text} {place : Asked}
    (hr : passwordIn find place = .ok r) :
    ∃ name p, place = .ok name ∧ find name = .ok p ∧ r = some p := by
  cases place with
  | error e => cases hr
  | ok name =>
    obtain ⟨p, hp, rfl⟩ := map_eq_ok.mp hr
    exact ⟨name, p, rfl, hp, rfl⟩

theorem variablePassword_ne_nil {name p : Text} (hp : variablePassword h name = .ok p) : p ≠ [] := by
  unfold variablePassword at hp
  split at hp
  · cases hp
  split at hp
  · next q hq =>
    obtain rfl := Except.ok.inj hp
    simpa using (Option.filter_eq_some_iff.mp hq).2
  · cases hp

/-- In production the password comes from the file that is named, or else from the variable, which
is never empty. -/
theorem password_of_source (hmode : s.mode.isProduction = true)
    (hsource : s.passwordFile.isSome = true ∨ s.passwordVariable.isSome = true)
    (hr : s.password h = .ok r) :
    ∃ p, r = some p ∧ ((∃ path, s.passwordFile = some (.ok path) ∧ filePassword h path = .ok p)
      ∨ s.passwordFile = none ∧ p ≠ []) := by
  unfold password at hr
  rw [if_pos hmode] at hr
  split at hr
  · next hfile =>
    obtain ⟨path, p, rfl, hp, rfl⟩ := passwordIn_eq_ok hr
    exact ⟨p, rfl, .inl ⟨path, hfile, hp⟩⟩
  · next hfile _ =>
    obtain ⟨_, p, -, hp, rfl⟩ := passwordIn_eq_ok hr
    exact ⟨p, rfl, .inr ⟨hfile, variablePassword_ne_nil hp⟩⟩
  · next hfile hvariable =>
    rw [hfile, hvariable] at hsource
    exact absurd hsource (by decide)

/-- It does not come from the address then. -/
theorem password_of_url (hmode : s.mode.isProduction = true)
    (hsource : s.passwordFile.isSome = true ∨ s.passwordVariable.isSome = true) (url : Text) :
    password { s with url := url } h = s.password h := by
  unfold password
  simp only [if_pos hmode]
  cases hfile : s.passwordFile with
  | some path => rfl
  | none =>
    cases hvariable : s.passwordVariable with
    | some name => rfl
    | none =>
      rw [hfile, hvariable] at hsource
      exact absurd hsource (by decide)

theorem exists_password {t : Text} (ht : s.connectionString h = .ok t) :
    ∃ r, s.password h = .ok r := by
  obtain ⟨_, -, ht⟩ := bind_eq_ok.mp ht
  obtain ⟨r, hr, -⟩ := bind_eq_ok.mp ht
  exact ⟨r, hr⟩

/-- Two addresses that differ in their passwords only have different connection strings in
production, although a file or a variable is named, exactly if there is nothing but blanks in the
file. -/
theorem connectionString_ne_iff {url : Text} {p q t₁ t₂ : Text}
    (hmode : s.mode.isProduction = true)
    (hsource : s.passwordFile.isSome = true ∨ s.passwordVariable.isSome = true)
    (hurl₁ : DatabaseUrl.read s.url = .ok { u with password := some p })
    (hurl₂ : DatabaseUrl.read url = .ok { u with password := some q }) (hne : p ≠ q)
    (h₁ : s.connectionString h = .ok t₁) (h₂ : connectionString { s with url := url } h = .ok t₂) :
    t₁ ≠ t₂ ↔ ∃ path, s.passwordFile = some (.ok path) ∧ filePassword h path = .ok [] := by
  have hformed := DatabaseUrl.read_formed hurl₁
  have huser : u.user.isSome = true := by
    rw [Option.isSome_iff_ne_none]
    exact fun hnone => Option.some_ne_none p (hformed.password hnone)
  obtain ⟨r, hr⟩ := exists_password h₁
  have hr₂ : password { s with url := url } h = .ok r := (password_of_url hmode hsource url).trans hr
  rw [connectionString_eq hurl₁ hr] at h₁
  rw [connectionString_eq hurl₂ hr₂] at h₂
  have hformed₁ := hformed.withSecret (r := r) (.inl huser)
  have hformed₂ := (DatabaseUrl.read_formed hurl₂).withSecret (r := r) (.inl huser)
  obtain ⟨hencodable₁, rfl⟩ := (DatabaseUrl.render_eq_ok_iff hformed₁).mp (mapError_eq_ok.mp h₁)
  obtain ⟨hencodable₂, rfl⟩ := (DatabaseUrl.render_eq_ok_iff hformed₂).mp (mapError_eq_ok.mp h₂)
  obtain ⟨secret, rfl, hfound⟩ := password_of_source hmode hsource hr
  by_cases hempty : secret = []
  · subst hempty
    have hdiffer : ({ u with password := some p } : DatabaseUrl).text
        ≠ { u with password := some q }.text := fun e =>
      hne (DatabaseUrl.password_eq_of_text_eq huser (hencodable₁.password p rfl)
        (hencodable₂.password q rfl) e)
    refine iff_of_true hdiffer ?_
    rcases hfound with hfile | ⟨-, hnonempty⟩
    · exact hfile
    · exact absurd rfl hnonempty
  · have hsame : ({ u with password := some p } : DatabaseUrl).withSecret (some secret)
        = { u with password := some q }.withSecret (some secret) := by
      rw [DatabaseUrl.withSecret_filled hempty, DatabaseUrl.withSecret_filled hempty]
    refine iff_of_false (fun hdiffer => hdiffer (congrArg DatabaseUrl.text hsame)) ?_
    rintro ⟨path, hfile, hp⟩
    rcases hfound with ⟨path', hfile', hp'⟩ | ⟨hnone, -⟩
    · obtain rfl := Except.ok.inj (Option.some.inj (hfile.symm.trans hfile'))
      exact hempty (Except.ok.inj (hp'.symm.trans hp))
    · rw [hnone] at hfile
      cases hfile

/-! ## An empty file -/

/-- The address of a database with a user, who has a password. -/
def appAddress (password : Text) : DatabaseUrl :=
  ⟨"postgresql", some "app", some password, some "h", none, some "d", []⟩

/-- The settings of a system in production that has a file for its password. -/
def filed (url : Text) : DatabaseSettings :=
  { ofTree (ConfigTree.standardSection .database) with
    url := url, mode := .production, passwordFile := some (.ok "pw") }

/-- A host where this file is empty. -/
def emptyFileHost : Host := ⟨[], [("pw", .data [])]⟩

theorem appAddress_formed (password : Text) : (appAddress password).Formed where
  driver_ne_nil := by
    show Text.ofString "postgresql" ≠ []
    decide
  driver := by
    show ∀ c ∈ Text.ofString "postgresql", DatabaseUrl.IsDriverPoint c
    decide +kernel
  password h := by cases h
  host_ne_nil host h := by cases h; decide
  host host h := by cases h; decide
  host_at h := by cases h
  port n h := by cases h
  query := DatabaseUrl.QueryFormed.nil

theorem appAddress_encodable {password : Text} (hp : password.NoSurrogates) :
    (appAddress password).Encodable where
  user user h := by cases h; decide
  password p h := by cases h; exact hp
  database database h := by cases h; decide
  query e he := absurd he List.not_mem_nil

theorem read_appAddress {password : Text} (hp : password.NoSurrogates) :
    DatabaseUrl.read (appAddress password).text = .ok (appAddress password) := by
  rw [DatabaseUrl.read_text (appAddress_formed password) (appAddress_encodable hp)
    (fun host h => by cases h; decide), DatabaseUrl.sorted_eq_self .nil]

theorem filePassword_emptyFileHost : filePassword emptyFileHost "pw" = .ok [] := by
  have hdecode : Utf8.decode [] = .ok [] := by
    rw [Utf8.decode, Utf8.scan]
    rfl
  have hname : EncodeError.ofName? "pw" = none := by decide
  have hfind : emptyFileHost.files.find? "pw" = some (.data []) := by decide
  unfold filePassword Files.readText
  simp only [hname, hfind, hdecode, show Files.hasNull "pw" = false by decide]
  rfl

theorem connectionString_filed {password : Text} (hp : password.NoSurrogates) :
    (filed (appAddress password).text).connectionString emptyFileHost
      = .ok (appAddress password).text := by
  have hfound : (filed (appAddress password).text).password emptyFileHost = .ok (some []) := by
    show passwordIn (filePassword emptyFileHost) (.ok "pw") = .ok (some [])
    show (filePassword emptyFileHost "pw").map some = .ok (some [])
    rw [filePassword_emptyFileHost]
    rfl
  rw [connectionString_eq (s := filed (appAddress password).text) (read_appAddress hp) hfound]
  refine mapError_eq_ok.mpr ((DatabaseUrl.render_eq_ok_iff (appAddress_formed password)).mpr ?_)
  exact ⟨appAddress_encodable hp, rfl⟩

/-- The password in the address is in the connection string, although a file is named for it. -/
theorem connectionString_emptyFile :
    (filed "postgresql://app:old@h/d").mode.isProduction = true
      ∧ (filed "postgresql://app:old@h/d").passwordFile = some (.ok "pw")
      ∧ DatabaseUrl.read "postgresql://app:old@h/d" = .ok (appAddress "old")
      ∧ DatabaseUrl.read "postgresql://app:new@h/d" = .ok (appAddress "new")
      ∧ (filed "postgresql://app:old@h/d").connectionString emptyFileHost
        = .ok "postgresql://app:old@h/d"
      ∧ (filed "postgresql://app:new@h/d").connectionString emptyFileHost
        = .ok "postgresql://app:new@h/d"
      ∧ Text.ofString "postgresql://app:old@h/d" ≠ "postgresql://app:new@h/d" := by
  have hold : (appAddress "old").text = "postgresql://app:old@h/d" := by decide +kernel
  have hnew : (appAddress "new").text = "postgresql://app:new@h/d" := by decide +kernel
  rw [← hold, ← hnew]
  have hclean : Text.NoSurrogates "old" ∧ Text.NoSurrogates "new" := by decide
  refine ⟨rfl, rfl, read_appAddress hclean.1, read_appAddress hclean.2,
    connectionString_filed hclean.1, connectionString_filed hclean.2, ?_⟩
  rw [hold, hnew]
  decide +kernel

theorem connectionString_ne_emptyFile :
    (appAddress "old").text ≠ (appAddress "new").text
      ↔ ∃ path, (filed (appAddress "old").text).passwordFile = some (.ok path)
        ∧ filePassword emptyFileHost path = .ok [] :=
  connectionString_ne_iff (s := filed (appAddress "old").text) (u := appAddress "old")
    (p := "old") (q := "new") rfl (.inl rfl) (read_appAddress (by decide))
    (read_appAddress (by decide)) (by decide) (connectionString_filed (by decide))
    (connectionString_filed (by decide))

end DatabaseSettings

end Registry
