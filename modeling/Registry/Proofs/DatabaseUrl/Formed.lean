import Registry.Proofs.DatabaseUrl.Query
import Registry.Proofs.Outcome
import Registry.Proofs.Text.Integer

/-!
# What an address is like when it is read

The parts of an address that is read are of the classes that the text was cut by (`read_formed`):
only a user has a password, a host has no sign that would end it, and has the sign `@` only behind a
password.
-/

namespace Registry.DatabaseUrl

/-- The code point may stand in the name of a driver. -/
def IsDriverPoint (c : CodePoint) : Prop := (c.isWord || c.is '+') = true

instance : DecidablePred IsDriverPoint := fun c =>
  inferInstanceAs (Decidable ((c.isWord || c.is '+') = true))

/-- The parts of an address are such as reading cuts out. -/
structure Formed (u : DatabaseUrl) : Prop where
  driver_ne_nil : u.driver ≠ []
  driver : ∀ c ∈ u.driver, IsDriverPoint c
  password : u.user = none → u.password = none
  host_ne_nil : ∀ host ∈ u.host, host ≠ []
  host : ∀ host ∈ u.host, ∀ c ∈ host, c.is '/' = false ∧ c.is '?' = false
  host_at : u.password = none → ∀ host ∈ u.host, ∀ c ∈ host, c.is '@' = false
  port : ∀ n ∈ u.port, (Text.ofNat n.natAbs).length ≤ Text.integerLengthLimit
  query : QueryFormed u.query

/-- No part that is escaped has surrogates. -/
structure Encodable (u : DatabaseUrl) : Prop where
  user : ∀ user ∈ u.user, user.NoSurrogates
  password : ∀ password ∈ u.password, password.NoSurrogates
  database : ∀ database ∈ u.database, database.NoSurrogates
  query : QueryEncodable u.query

/-! ## Cutting off the parts -/

theorem takeDriver?_eq_some {t driver rest : Text} (h : takeDriver? t = some (driver, rest)) :
    driver ≠ [] ∧ (∀ c ∈ driver, IsDriverPoint c) ∧ t = driver ++ (Text.ofString "://" ++ rest) := by
  unfold takeDriver? at h
  simp only at h
  split at h
  · cases h
  · next hne =>
    obtain ⟨r, hr, e⟩ := Option.map_eq_some_iff.mp h
    obtain ⟨rfl, rfl⟩ := Prod.mk.inj e
    refine ⟨by simpa using hne, ?_, ?_⟩
    · intro c hc
      have hname := List.mem_takeWhile_imp hc
      exact hname
    · rw [← Text.dropPrefix?_eq_some_iff.mp hr]
      exact List.takeWhile_append_dropWhile.symm

theorem mem_of_mem_takeWhile {p : CodePoint → Bool} {s r : Text} {c : CodePoint}
    (hr : ∀ d ∈ r.head?, p d = false) (h : c ∈ (s ++ r).takeWhile p) : c ∈ s := by
  induction s with
  | nil =>
    cases r with
    | nil => exact h
    | cons d r =>
      rw [List.nil_append, List.takeWhile_cons_of_neg (by simp [hr d rfl])] at h
      exact h
  | cons d s ih =>
    rw [List.cons_append, List.takeWhile_cons] at h
    split at h
    · exact (List.mem_cons.mp h).elim (fun e => e ▸ List.mem_cons_self)
        fun h => List.mem_cons_of_mem d (ih h)
    · exact absurd h List.not_mem_nil

/-- Nothing but a slash stands behind the part of the text before the first sign `@`. -/
def NoAtBeforeSlash (t : Text) : Prop :=
  ∃ s r, t = s ++ r ∧ (∀ c ∈ s, c.is '@' = false) ∧ ∀ c ∈ r.head?, c.is '/' = true

theorem NoAtBeforeSlash.of_forall {t : Text} (h : ∀ c ∈ t, c.is '@' = false) : NoAtBeforeSlash t :=
  ⟨t, [], (List.append_nil t).symm, h, fun c hc => absurd hc (Option.not_mem_none c)⟩

theorem NoAtBeforeSlash.append {s t : Text} (hs : ∀ c ∈ s, c.is '@' = false)
    (ht : NoAtBeforeSlash t) : NoAtBeforeSlash (s ++ t) := by
  obtain ⟨s', r, rfl, hs', hr⟩ := ht
  refine ⟨s ++ s', r, (List.append_assoc s s' r).symm, ?_, hr⟩
  intro c hc
  exact (List.mem_append.mp hc).elim (hs c) (hs' c)

theorem forall_of_length_le_takeWhile {p : CodePoint → Bool} {t : Text}
    (h : t.length ≤ (t.takeWhile p).length) : ∀ c ∈ t, p c = true := by
  have hbegins := List.takeWhile_prefix p (l := t)
  have hall := hbegins.eq_of_length (Nat.le_antisymm hbegins.length_le h)
  intro c hc
  exact List.mem_takeWhile_imp (hall.symm ▸ hc)

theorem splitLastAt?_eq_none {t : Text} (h : splitLastAt? t = none) : ∀ c ∈ t, c.is '@' = false := by
  unfold splitLastAt? at h
  simp only at h
  split at h
  · next hlen =>
    have hall := forall_of_length_le_takeWhile (hlen.trans List.length_reverse.symm).ge
    intro c hc
    simpa using hall c (List.mem_reverse.mpr hc)
  · cases h

theorem head?_dropWhile {p : CodePoint → Bool} {t : Text} :
    ∀ c ∈ (t.dropWhile p).head?, p c = false := by
  intro c hc
  rw [← List.find?_not_eq_head?_dropWhile] at hc
  simpa using List.find?_some hc

/-- A text is cut at its last sign `@`. -/
theorem splitLastAt?_eq_some {t user after : Text} (h : splitLastAt? t = some (user, after)) :
    t = user ++ .ofChar '@' :: after ∧ ∀ c ∈ after, c.is '@' = false := by
  have hsplit := List.takeWhile_append_dropWhile (p := fun c : CodePoint => !c.is '@')
    (l := t.reverse)
  have hstop := head?_dropWhile (p := fun c : CodePoint => !c.is '@') (t := t.reverse)
  have hafter : ∀ c ∈ t.reverse.takeWhile fun c => !c.is '@', c.is '@' = false := fun c hc => by
    simpa using List.mem_takeWhile_imp hc
  unfold splitLastAt? at h
  simp only at h
  generalize (t.reverse.takeWhile fun c => !c.is '@') = run at *
  generalize (t.reverse.dropWhile fun c => !c.is '@') = rest at *
  split at h
  · cases h
  next hlen =>
  obtain ⟨rfl, rfl⟩ := Prod.mk.inj (Option.some.inj h)
  cases rest with
  | nil =>
    rw [List.append_nil] at hsplit
    exact absurd (by rw [hsplit, List.length_reverse]) hlen
  | cons c rest =>
    have hc : c = .ofChar '@' := CodePoint.eq_ofChar_of_is (by simpa using hstop c rfl)
    have ht : t = rest.reverse ++ .ofChar '@' :: run.reverse := by
      rw [← List.reverse_reverse t, ← hsplit, hc]
      simp
    refine ⟨?_, fun c hc => hafter c (List.mem_reverse.mp hc)⟩
    have hlength : t.length - run.length - 1 = rest.reverse.length := by
      rw [ht]
      simp only [List.length_append, List.length_cons, List.length_reverse]
      omega
    rw [hlength]
    conv_rhs => rw [ht, List.take_left]
    exact ht

/-- What reading a user takes from a text: nothing, a user, or a user and a password. -/
inductive TakesUser : Text → (Option Text × Option Text) × Text → Prop
  | nothing {t : Text} (h : NoAtBeforeSlash t) : TakesUser t ((none, none), t)
  | user {user left : Text} (h : NoAtBeforeSlash left) :
    TakesUser (user ++ .ofChar '@' :: left) ((some user, none), left)
  | password {user password left : Text} :
    TakesUser (user ++ .ofChar ':' :: (password ++ .ofChar '@' :: left))
      ((some user, some password), left)

/-- Where the user reaches to the last sign `@` of a run, there is no password. -/
theorem takesUser_of_last {run rest : Text} {r : (Option Text × Option Text) × Text}
    (hrest : NoAtBeforeSlash rest) (hnone : splitLastAt? run = none → r = ((none, none), run ++ rest))
    (hsome : ∀ e, splitLastAt? run = some e → r = ((some e.1, none), e.2 ++ rest)) :
    TakesUser (run ++ rest) r := by
  cases hsplit : splitLastAt? run with
  | none =>
    rw [hnone hsplit]
    exact .nothing (hrest.append (splitLastAt?_eq_none hsplit))
  | some e =>
    obtain ⟨hrun, hafter⟩ := splitLastAt?_eq_some hsplit
    rw [hsome e hsplit, hrun, List.append_assoc]
    exact .user (hrest.append hafter)

theorem takeUser_takes (t : Text) : TakesUser t (takeUser t) := by
  have ht := List.takeWhile_append_dropWhile (p := fun c : CodePoint => !c.is ':' && !c.is '/')
    (l := t)
  have hstop := head?_dropWhile (p := fun c : CodePoint => !c.is ':' && !c.is '/') (t := t)
  unfold takeUser
  simp only
  generalize t.takeWhile (fun c => !c.is ':' && !c.is '/') = run at *
  generalize t.dropWhile (fun c => !c.is ':' && !c.is '/') = rest at *
  subst ht
  split
  · exact takesUser_of_last (.of_forall fun c hc => absurd hc List.not_mem_nil)
      (fun e => by rw [e]) fun _ e => by rw [e]
  · next c afterColon =>
    split
    · next hcolon =>
      split
      · next hdrop =>
        have hall := forall_of_length_le_takeWhile (List.drop_eq_nil_iff.mp hdrop)
        refine takesUser_of_last (.of_forall (List.forall_mem_cons.mpr ⟨?_, ?_⟩))
          (fun e => by rw [e]) fun _ e => by rw [e]
        · rw [CodePoint.eq_ofChar_of_is hcolon]
          decide
        · intro d hd
          simpa using hall d hd
      · next d left hdrop =>
        have hpassword := List.takeWhile_append_dropWhile (p := fun c : CodePoint => !c.is '@')
          (l := afterColon)
        have hat := head?_dropWhile (p := fun c : CodePoint => !c.is '@') (t := afterColon)
        generalize afterColon.takeWhile (fun c => !c.is '@') = password at *
        generalize afterColon.dropWhile (fun c => !c.is '@') = behind at *
        subst hpassword
        rw [List.drop_left] at hdrop
        subst hdrop
        have hd : d = .ofChar '@' := CodePoint.eq_ofChar_of_is (by simpa using hat d rfl)
        rw [CodePoint.eq_ofChar_of_is hcolon, hd]
        exact .password
    · next hcolon =>
      refine takesUser_of_last ⟨[], _, rfl, fun c hc => absurd hc List.not_mem_nil, ?_⟩
        (fun e => by rw [e]) fun _ e => by rw [e]
      intro d hd
      obtain rfl := Option.some.inj hd
      simpa [hcolon] using hstop c rfl

theorem takeBracketed?_eq_some {t host left : Text} (h : takeBracketed? t = some (host, left)) :
    host ≠ [] ∧ (∀ c ∈ host, c.is '/' = false ∧ c.is '?' = false)
      ∧ (NoAtBeforeSlash t → ∀ c ∈ host, c.is '@' = false) := by
  unfold takeBracketed? at h
  split at h
  · cases h
  next d rest =>
  split at h
  · next hd =>
    simp only at h
    split at h
    · cases h
    · next hhost =>
      obtain rfl := (Prod.mk.inj (Option.some.inj h)).1
      rw [not_or] at hhost
      refine ⟨by simpa using hhost.2, ?_, ?_⟩
      · intro c hc
        simpa using List.mem_takeWhile_imp (List.mem_of_mem_take hc)
      · rintro ⟨s, r, hsr, hs, hr⟩ c hc
        cases s with
        | nil =>
          rw [List.nil_append] at hsr
          have hslash := hr d (hsr ▸ rfl)
          rw [CodePoint.eq_ofChar_of_is hd] at hslash
          exact absurd hslash (by decide)
        | cons e s =>
          obtain ⟨rfl, rfl⟩ := List.cons.inj hsr
          refine hs c (List.mem_cons_of_mem d (mem_of_mem_takeWhile ?_ (List.mem_of_mem_take hc)))
          intro c hc
          rw [hr c hc]
          rfl
  · cases h

theorem takeHost_eq_some {t host : Text} (h : (takeHost t).1 = some host) :
    host ≠ [] ∧ (∀ c ∈ host, c.is '/' = false ∧ c.is '?' = false)
      ∧ (NoAtBeforeSlash t → ∀ c ∈ host, c.is '@' = false) := by
  unfold takeHost at h
  split at h
  · next hbracketed =>
    obtain rfl := Option.some.inj h
    exact takeBracketed?_eq_some hbracketed
  · simp only at h
    split at h
    · cases h
    · next hne =>
      obtain rfl := Option.some.inj h
      refine ⟨by simpa using hne, ?_, ?_⟩
      · intro c hc
        have hsigns := List.mem_takeWhile_imp hc
        simp only [Bool.and_eq_true, Bool.not_eq_true'] at hsigns
        exact ⟨hsigns.1.1, hsigns.2⟩
      · rintro ⟨s, r, rfl, hs, hr⟩ c hc
        refine hs c (mem_of_mem_takeWhile ?_ hc)
        intro c hc
        rw [hr c hc]
        rfl

theorem mem_of_mem_takeHost {t : Text} {c : CodePoint} (h : c ∈ (takeHost t).2) : c ∈ t := by
  unfold takeHost at h
  split at h
  · next host left hbracketed =>
    unfold takeBracketed? at hbracketed
    split at hbracketed
    · cases hbracketed
    split at hbracketed
    · simp only at hbracketed
      split at hbracketed
      · cases hbracketed
      · obtain ⟨rfl, rfl⟩ := Prod.mk.inj (Option.some.inj hbracketed)
        exact List.mem_cons_of_mem _ (List.mem_of_mem_drop h)
    · cases hbracketed
  · exact (List.dropWhile_sublist _).mem h

theorem mem_of_mem_takePart {opening : Char} {isPart : CodePoint → Bool} {t : Text} :
    (∀ part ∈ (takePart opening isPart t).1, ∀ c ∈ part, c ∈ t)
      ∧ ∀ c ∈ (takePart opening isPart t).2, c ∈ t := by
  have hnone : ∀ part ∈ (none : Option Text), ∀ c ∈ part, c ∈ t := fun part h =>
    absurd h (Option.not_mem_none part)
  unfold takePart
  split
  · exact ⟨hnone, fun c hc => hc⟩
  split
  · refine ⟨?_, fun c hc => List.mem_cons_of_mem _ ((List.dropWhile_sublist _).mem hc)⟩
    intro part hpart c hc
    obtain rfl := Option.some.inj hpart
    exact List.mem_cons_of_mem _ ((List.takeWhile_sublist _).mem hc)
  · exact ⟨hnone, fun c hc => hc⟩

/-! ## The parts together -/

/-- The address that is made of what is cut out of the text behind the driver. -/
def ofParts (driver rest : Text) (port : Option Int) (database query : Option Text) : DatabaseUrl :=
  ⟨driver, (takeUser rest).1.1.map Percent.decode, (takeUser rest).1.2.map Percent.decode,
    (takeHost (takeUser rest).2).1, port, database.map Percent.decode,
    (query.map readQuery).getD []⟩

/-- What reading an address cuts out of a text. -/
theorem read_eq_ok {t : Text} {u : DatabaseUrl} (h : read t = .ok u) :
    ∃ driver rest port database query, takeDriver? t = some (driver, rest)
      ∧ u = ofParts driver rest port database query
      ∧ (∀ n ∈ port, (Text.ofNat n.natAbs).length ≤ Text.integerLengthLimit)
      ∧ (∀ part ∈ database, ∀ c ∈ part, c ∈ (takeUser rest).2)
      ∧ ∀ part ∈ query, ∀ c ∈ part, c ∈ (takeUser rest).2 := by
  unfold read at h
  split at h
  · cases h
  next driver rest hdriver =>
  simp only at h
  have hdatabase : ∀ part ∈ (takePart '/' (fun c => !c.is '?') (takePart ':'
      (fun c => !c.is '/' && !c.is '?') (takeHost (takeUser rest).2).2).2).1,
      ∀ c ∈ part, c ∈ (takeUser rest).2 := fun part hpart c hc =>
    mem_of_mem_takeHost (mem_of_mem_takePart.2 c (mem_of_mem_takePart.1 part hpart c hc))
  have hquery : ∀ part ∈ (takePart '?' (fun c => !c.is '\n') (takePart '/' (fun c => !c.is '?')
      (takePart ':' (fun c => !c.is '/' && !c.is '?') (takeHost (takeUser rest).2).2).2).2).1,
      ∀ c ∈ part, c ∈ (takeUser rest).2 := fun part hpart c hc =>
    mem_of_mem_takeHost (mem_of_mem_takePart.2 c
      (mem_of_mem_takePart.2 c (mem_of_mem_takePart.1 part hpart c hc)))
  split at h
  · obtain rfl := Except.ok.inj h
    refine ⟨driver, rest, none, _, _, hdriver, rfl, ?_, hdatabase, hquery⟩
    exact fun n hn => absurd hn (Option.not_mem_none n)
  · obtain ⟨n, hn, rfl⟩ := map_eq_ok.mp (mapError_eq_ok.mp h)
    refine ⟨driver, rest, some n, _, _, hdriver, rfl, ?_, hdatabase, hquery⟩
    intro m hm
    obtain rfl := Option.some.inj hm
    exact Text.length_of_readInteger hn

/-- An address that is read is formed. -/
theorem read_formed {t : Text} {u : DatabaseUrl} (h : read t = .ok u) : u.Formed := by
  obtain ⟨driver, rest, port, database, query, hdriver, rfl, hport, -, -⟩ := read_eq_ok h
  obtain ⟨hne, hpoints, -⟩ := takeDriver?_eq_some hdriver
  have huser := takeUser_takes rest
  unfold ofParts
  generalize takeUser rest = r at *
  refine ⟨hne, hpoints, ?_, fun _ h => (takeHost_eq_some h).1, fun _ h => (takeHost_eq_some h).2.1,
    ?_, hport, ?_⟩
  · intro h
    cases huser with
    | nothing => rfl
    | user => rfl
    | password => cases h
  · intro h host hhost
    refine (takeHost_eq_some hhost).2.2 ?_
    cases huser with
    | nothing hat => exact hat
    | user hat => exact hat
    | password => cases h
  · cases query with
    | none => exact QueryFormed.nil
    | some query => exact readQuery_formed query

/-- A text from which an address is read begins with the name of the dialect. -/
theorem dialect_prefix_of_read {t : Text} {u : DatabaseUrl} (h : read t = .ok u) :
    u.dialect <+: t := by
  obtain ⟨driver, rest, port, database, query, hdriver, rfl, -⟩ := read_eq_ok h
  rw [(takeDriver?_eq_some hdriver).2.2]
  exact (List.takeWhile_prefix _).trans (List.prefix_append _ _)

/-- The parts of an address that is read from a text without surrogates have none. -/
theorem read_encodable {t : Text} {u : DatabaseUrl} (h : read t = .ok u) (ht : t.NoSurrogates) :
    u.Encodable := by
  obtain ⟨driver, rest, port, database, query, hdriver, rfl, -, hdatabase, hquery⟩ := read_eq_ok h
  rw [(takeDriver?_eq_some hdriver).2.2] at ht
  have hrest : rest.NoSurrogates :=
    (List.forall_mem_append.mp (List.forall_mem_append.mp ht).2).2
  have huser := takeUser_takes rest
  unfold ofParts
  generalize takeUser rest = r at *
  have hdecoded {part : Option Text} (h : ∀ s ∈ part, s.NoSurrogates) :
      ∀ s ∈ part.map Percent.decode, s.NoSurrogates := by
    intro s hs
    obtain ⟨p, hp, rfl⟩ := Option.mem_map.mp hs
    exact Percent.decode_noSurrogates (h p hp)
  have hsome {s : Text} (h : s.NoSurrogates) : ∀ t ∈ some s, t.NoSurrogates := by
    intro t ht
    obtain rfl := Option.some.inj ht
    exact h
  have hparts : (∀ s ∈ r.1.1, s.NoSurrogates) ∧ (∀ s ∈ r.1.2, s.NoSurrogates)
      ∧ r.2.NoSurrogates := by
    cases huser with
    | nothing => exact ⟨nofun, nofun, hrest⟩
    | user =>
      obtain ⟨huser, hleft⟩ := List.forall_mem_append.mp hrest
      exact ⟨hsome huser, nofun, (List.forall_mem_cons.mp hleft).2⟩
    | password =>
      obtain ⟨huser, hbehind⟩ := List.forall_mem_append.mp hrest
      obtain ⟨hpassword, hleft⟩ :=
        List.forall_mem_append.mp (List.forall_mem_cons.mp hbehind).2
      exact ⟨hsome huser, hsome hpassword, (List.forall_mem_cons.mp hleft).2⟩
  refine ⟨hdecoded hparts.1, hdecoded hparts.2.1, hdecoded fun s hs c hc => ?_, ?_⟩
  · exact hparts.2.2 c (hdatabase s hs c hc)
  · cases query with
    | none => exact fun e he => absurd he List.not_mem_nil
    | some query => exact readQuery_encodable fun c hc => hparts.2.2 c (hquery query rfl c hc)

end Registry.DatabaseUrl
