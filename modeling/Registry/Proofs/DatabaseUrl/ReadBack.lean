import Registry.Proofs.DatabaseUrl.Formed

/-!
# Addresses read back

Each part of an address is cut off where it was written (`takeUser_userText`, `takeHost_hostText`
and `takePart_append`), because the signs that end a part are escaped inside of it. So an address
such as reading gives, whose host does not begin with a bracket, is read back from its text, with the
fields of the query in the order of their keys (`read_text`).
-/

namespace Registry.DatabaseUrl

/-! ## Cutting at the last sign -/

theorem splitLastAt?_of_forall {t : Text} (h : ∀ c ∈ t, c.is '@' = false) :
    splitLastAt? t = none := by
  have hall : (t.reverse.takeWhile fun c => !c.is '@') = t.reverse := by
    refine List.takeWhile_eq_self_iff.mpr fun c hc => ?_
    rw [h c (List.mem_reverse.mp hc)]
    rfl
  unfold splitLastAt?
  rw [hall]
  exact if_pos List.length_reverse

theorem takeWhile_reverse_append {p : CodePoint → Bool} {s r : Text} {c : CodePoint}
    (hc : p c = false) (hr : ∀ d ∈ r, p d = true) :
    (s ++ c :: r).reverse.takeWhile p = r.reverse := by
  rw [List.reverse_append, List.reverse_cons, List.append_assoc, List.singleton_append]
  refine Text.takeWhile_append_stop (fun d hd => hr d (List.mem_reverse.mp hd)) ?_
  intro d hd
  obtain rfl := Option.some.inj hd
  exact hc

theorem splitLastAt?_append {r : Text} (hr : ∀ c ∈ r, c.is '@' = false) (s : Text) :
    splitLastAt? (s ++ .ofChar '@' :: r) = some (s, r) := by
  have hafter : ((s ++ .ofChar '@' :: r).reverse.takeWhile fun c => !c.is '@') = r.reverse :=
    takeWhile_reverse_append rfl fun c hc => by rw [hr c hc]; rfl
  unfold splitLastAt?
  rw [hafter]
  simp only [List.length_reverse, List.length_append, List.length_cons, List.reverse_reverse]
  rw [if_neg (by omega), show s.length + (r.length + 1) - r.length - 1 = s.length by omega,
    List.take_left]

/-! ## The user and the password -/

section TakeUser

variable {s t : Text}

theorem takeUser_of_rest {run rest : Text} (hrun : ∀ c ∈ run, (!c.is ':' && !c.is '/') = true)
    (hstop : ∀ c ∈ rest.head?, (!c.is ':' && !c.is '/') = false)
    (hrest : ∀ c ∈ rest, c.is '@' = false) :
    (splitLastAt? run = none → takeUser (run ++ rest) = ((none, none), run ++ rest))
      ∧ ∀ e, splitLastAt? run = some e → takeUser (run ++ rest) = ((some e.1, none), e.2 ++ rest) := by
  unfold takeUser
  simp only [Text.takeWhile_append_stop hrun hstop, Text.dropWhile_append_stop hrun hstop]
  cases rest with
  | nil =>
    simp only
    exact ⟨fun e => by rw [e], fun _ e => by rw [e]⟩
  | cons c afterColon =>
    have hall : (afterColon.takeWhile fun c => !c.is '@') = afterColon := by
      refine List.takeWhile_eq_self_iff.mpr fun d hd => ?_
      rw [hrest d (List.mem_cons_of_mem c hd)]
      rfl
    simp only [hall, List.drop_length, ite_self]
    exact ⟨fun e => by rw [e], fun _ e => by rw [e]⟩

/-- Without a sign `@` there is no user. -/
theorem takeUser_of_forall (h : ∀ c ∈ t, c.is '@' = false) : takeUser t = ((none, none), t) := by
  have ht := List.takeWhile_append_dropWhile (p := fun c : CodePoint => !c.is ':' && !c.is '/')
    (l := t)
  have htake := takeUser_of_rest (fun c hc => List.mem_takeWhile_imp (l := t) hc) head?_dropWhile
    fun c hc => h c ((List.dropWhile_sublist _).mem hc)
  rw [ht] at htake
  exact htake.1 (splitLastAt?_of_forall fun c hc => h c ((List.takeWhile_sublist _).mem hc))

/-- A user without a password reaches to the last sign `@`. -/
theorem takeUser_user (hs : ∀ c ∈ s, (!c.is ':' && !c.is '/') = true)
    (ht : ∀ c ∈ t, c.is '@' = false) : takeUser (s ++ .ofChar '@' :: t) = ((some s, none), t) := by
  have happend := List.takeWhile_append_dropWhile
    (p := fun c : CodePoint => !c.is ':' && !c.is '/') (l := t)
  have hrun : ∀ c ∈ s ++ .ofChar '@' :: t.takeWhile fun c => !c.is ':' && !c.is '/',
      (!c.is ':' && !c.is '/') = true := by
    intro c hc
    rcases List.mem_append.mp hc with hc | hc
    · exact hs c hc
    rcases List.mem_cons.mp hc with rfl | hc
    · decide
    · exact List.mem_takeWhile_imp (p := fun c : CodePoint => !c.is ':' && !c.is '/') hc
  have htake := (takeUser_of_rest hrun head?_dropWhile
    fun c hc => ht c ((List.dropWhile_sublist _).mem hc)).2 _
    (splitLastAt?_append (fun c hc => ht c ((List.takeWhile_sublist _).mem hc)) s)
  rwa [List.append_assoc, List.cons_append, happend] at htake

/-- A password stands between the first colon and the next sign `@`. -/
theorem takeUser_password {p : Text} (hs : ∀ c ∈ s, (!c.is ':' && !c.is '/') = true)
    (hp : ∀ c ∈ p, c.is '@' = false) :
    takeUser (s ++ .ofChar ':' :: (p ++ .ofChar '@' :: t)) = ((some s, some p), t) := by
  have hstop : ∀ c ∈ (CodePoint.ofChar ':' :: (p ++ .ofChar '@' :: t)).head?,
      (!c.is ':' && !c.is '/') = false := by
    intro c hc
    obtain rfl := Option.some.inj hc
    decide
  have hpassword : ((p ++ CodePoint.ofChar '@' :: t).takeWhile fun c => !c.is '@') = p := by
    refine Text.takeWhile_append_stop (fun c hc => by rw [hp c hc]; rfl) fun c hc => ?_
    obtain rfl := Option.some.inj hc
    decide
  unfold takeUser
  simp only [Text.takeWhile_append_stop hs hstop, Text.dropWhile_append_stop hs hstop, hpassword,
    List.drop_left, show (CodePoint.ofChar ':').is ':' = true from rfl, if_true]

end TakeUser

/-! ## The host -/

section TakeHost

variable {h s r t : Text}

theorem takeBracketed?_of_head? (ht : ∀ c ∈ t.head?, c.is '[' = false) : takeBracketed? t = none := by
  cases t with
  | nil => rfl
  | cons c t => exact if_neg (Bool.eq_false_iff.mp (ht c rfl))

/-- A host in brackets reaches to the last closing bracket before a slash or question mark. -/
theorem takeBracketed?_append (hne : h ≠ []) (hh : ∀ c ∈ h, (!c.is '/' && !c.is '?') = true)
    (hs : ∀ c ∈ s, (!c.is '/' && !c.is '?') = true ∧ c.is ']' = false)
    (hr : ∀ c ∈ r.head?, (!c.is '/' && !c.is '?') = false) :
    takeBracketed? (.ofChar '[' :: (h ++ .ofChar ']' :: (s ++ r))) = some (h, s ++ r) := by
  have hrun : ((h ++ .ofChar ']' :: (s ++ r)).takeWhile fun c => !c.is '/' && !c.is '?')
      = h ++ .ofChar ']' :: s := by
    rw [← List.cons_append, ← List.append_assoc]
    refine Text.takeWhile_append_stop (fun c hc => ?_) hr
    rcases List.mem_append.mp hc with hc | hc
    · exact hh c hc
    rcases List.mem_cons.mp hc with rfl | hc
    · decide
    · exact (hs c hc).1
  have hafter : ((h ++ .ofChar ']' :: s).reverse.takeWhile fun c => !c.is ']') = s.reverse :=
    takeWhile_reverse_append rfl fun c hc => by rw [(hs c hc).2]; rfl
  have hlen : (h ++ CodePoint.ofChar ']' :: s).length - s.reverse.length - 1 = h.length := by
    simp only [List.length_append, List.length_cons, List.length_reverse]
    omega
  have hdrop : (h ++ CodePoint.ofChar ']' :: (s ++ r)).drop (h.length + 1) = s ++ r := by
    rw [← List.drop_drop, List.drop_left]
    rfl
  unfold takeBracketed?
  simp only [show (CodePoint.ofChar '[').is '[' = true from rfl, if_true, hrun, hafter, hlen,
    List.take_left, hdrop]
  refine if_neg (not_or.mpr ⟨?_, by simpa using hne⟩)
  simp only [List.length_append, List.length_cons, List.length_reverse]
  omega

theorem takeHost_nil (ht : ∀ c ∈ t.head?, (!c.is '/' && !c.is ':' && !c.is '?') = false) :
    takeHost t = (none, t) := by
  have hbracketed : takeBracketed? t = none := by
    refine takeBracketed?_of_head? fun c hc => Bool.eq_false_iff.mpr fun hopen => ?_
    rw [CodePoint.eq_ofChar_of_is hopen] at hc
    exact absurd (ht _ hc) (by decide)
  have htake := Text.takeWhile_append_stop (s := []) (fun c hc => absurd hc List.not_mem_nil) ht
  have hdrop := Text.dropWhile_append_stop (s := []) (fun c hc => absurd hc List.not_mem_nil) ht
  rw [List.nil_append] at htake hdrop
  unfold takeHost
  simp only [hbracketed, htake, hdrop]
  rfl

/-- A host without brackets reaches to the next slash, colon or question mark. -/
theorem takeHost_plain (hne : h ≠ []) (hbracket : ∀ c ∈ h.head?, c.is '[' = false)
    (hh : ∀ c ∈ h, (!c.is '/' && !c.is ':' && !c.is '?') = true)
    (ht : ∀ c ∈ t.head?, (!c.is '/' && !c.is ':' && !c.is '?') = false) :
    takeHost (h ++ t) = (some h, t) := by
  have hbracketed : takeBracketed? (h ++ t) = none := by
    refine takeBracketed?_of_head? fun c hc => hbracket c ?_
    rwa [List.head?_append_of_ne_nil _ hne] at hc
  unfold takeHost
  simp only [hbracketed, Text.takeWhile_append_stop hh ht, Text.dropWhile_append_stop hh ht]
  rw [if_neg (by simpa using hne)]

end TakeHost

/-! ## The parts that a sign begins -/

section TakePart

variable {opening : Char} {isPart : CodePoint → Bool} {s r t : Text}

theorem takePart_none (h : ∀ c ∈ t.head?, c.is opening = false) :
    takePart opening isPart t = (none, t) := by
  cases t with
  | nil => rfl
  | cons c t => exact if_neg (Bool.eq_false_iff.mp (h c rfl))

theorem takePart_append (hs : ∀ c ∈ s, isPart c = true) (hr : ∀ c ∈ r.head?, isPart c = false) :
    takePart opening isPart (.ofChar opening :: (s ++ r)) = (some s, r) := by
  refine (if_pos (CodePoint.is_iff.mpr rfl)).trans ?_
  rw [Text.takeWhile_append_stop hs hr, Text.dropWhile_append_stop hs hr]

end TakePart

/-! ## Signs in what is written -/

section Signs

variable {u : DatabaseUrl} {x : Char} {c : CodePoint}

/-- The port after a colon. -/
def portText (u : DatabaseUrl) : Text :=
  match u.port with
  | some n => Text.ofString ":" ++ Text.ofInt n
  | none => []

/-- What is written behind the host. -/
def behindHost (u : DatabaseUrl) : Text := u.portText ++ (u.databaseText ++ u.queryText)

theorem text_eq (u : DatabaseUrl) :
    u.text = u.driver ++ (Text.ofString "://" ++ (u.userText ++ (u.hostText ++ u.behindHost))) := by
  show u.driver ++ Text.ofString "://" ++ u.userText ++ u.hostText ++ u.portText ++ u.databaseText
    ++ u.queryText = _
  simp only [behindHost, List.append_assoc]

theorem is_ofChar_eq_false {y : Char} (h : x ≠ y) : (CodePoint.ofChar y).is x = false := by
  rw [CodePoint.is_eq_false_iff]
  exact fun e => h (Char.toNat_inj.mp e).symm

theorem is_false_of_mem_encodeUser {t : Text} (hx : Percent.isUnreserved (.ofChar x) = false)
    (hsigns : x ∉ ['%', ' ', '+']) (h : c ∈ encodeUser t) : c.is x = false := by
  simp only [List.mem_cons, List.not_mem_nil, or_false, not_or] at hsigns
  obtain ⟨hpercent, hspace, hplus⟩ := hsigns
  refine Percent.is_false_of_mem_encode hx hpercent ?_ h
  rw [is_ofChar_eq_false (Ne.symm hspace), is_ofChar_eq_false (Ne.symm hplus)]
  rfl

theorem is_false_of_mem_ofInt {n : Int} (hx : (CodePoint.ofChar x).isDigit = false) (hminus : x ≠ '-')
    (h : c ∈ Text.ofInt n) : c.is x = false := by
  have hdigits (h : c ∈ Text.ofNat n.natAbs) : c.is x = false := by
    rw [← Bool.not_eq_true]
    intro hc
    rw [← CodePoint.eq_ofChar_of_is hc, Text.ofNat_allDigits _ c h] at hx
    cases hx
  unfold Text.ofInt at h
  split at h
  · rcases List.mem_cons.mp h with rfl | h
    · exact is_ofChar_eq_false hminus
    · exact hdigits h
  · exact hdigits h

theorem is_false_of_mem_portText (hx : (CodePoint.ofChar x).isDigit = false)
    (hcolon : x ≠ ':') (hminus : x ≠ '-') (h : c ∈ u.portText) : c.is x = false := by
  unfold portText at h
  split at h
  · rcases List.mem_append.mp h with h | h
    · obtain rfl := List.mem_singleton.mp h
      exact is_ofChar_eq_false hcolon
    · exact is_false_of_mem_ofInt hx hminus h
  · exact absurd h List.not_mem_nil

theorem is_false_of_mem_databaseText (hx : Percent.isUnreserved (.ofChar x) = false)
    (hsigns : x ∉ ['%', ' ', '+', '/']) (h : c ∈ u.databaseText) : c.is x = false := by
  simp only [List.mem_cons, List.not_mem_nil, or_false, not_or] at hsigns
  obtain ⟨hpercent, hspace, hplus, hslash⟩ := hsigns
  unfold databaseText at h
  split at h
  · exact absurd h List.not_mem_nil
  · rcases List.mem_append.mp h with h | h
    · obtain rfl := List.mem_singleton.mp h
      exact is_ofChar_eq_false hslash
    · refine Percent.is_false_of_mem_encode hx hpercent ?_ h
      rw [is_ofChar_eq_false (Ne.symm hspace), is_ofChar_eq_false (Ne.symm hplus),
        is_ofChar_eq_false (Ne.symm hslash)]
      rfl

/-- The query in the order of its keys. -/
def sortedQuery (u : DatabaseUrl) : List (Text × List Text) :=
  u.query.mergeSort fun a b => Text.le a.1 b.1

theorem queryText_eq (u : DatabaseUrl) :
    u.queryText = if u.query.isEmpty then [] else
      .ofChar '?' :: joined (fieldsOf u.sortedQuery) := by
  unfold queryText joined fieldsOf sortedQuery
  rw [List.map_flatMap]
  simp only [List.map_map]
  rfl

theorem is_false_of_mem_joined {fields : List (Text × Text)}
    (hx : Percent.isUnreserved (.ofChar x) = false) (hsigns : x ∉ ['+', '%', '=', '&'])
    (h : c ∈ joined fields) : c.is x = false := by
  obtain ⟨part, hpart, hc⟩ := List.mem_flatten.mp h
  rcases Text.mem_of_mem_intersperse hpart with rfl | hpart
  · obtain rfl := List.mem_singleton.mp hc
    exact is_ofChar_eq_false (y := '&') fun e => hsigns (by simp [e])
  · obtain ⟨e, -, rfl⟩ := List.mem_map.mp hpart
    refine is_false_of_mem_fieldText hx (fun hmem => hsigns ?_) hc
    exact List.mem_append_left ['&'] hmem

theorem is_false_of_mem_queryText (hx : Percent.isUnreserved (.ofChar x) = false)
    (hsigns : x ∉ ['+', '%', '=', '&', '?']) (h : c ∈ u.queryText) : c.is x = false := by
  rw [queryText_eq] at h
  split at h
  · exact absurd h List.not_mem_nil
  rcases List.mem_cons.mp h with rfl | h
  · exact is_ofChar_eq_false fun e => hsigns (by simp [e])
  · exact is_false_of_mem_joined hx (fun hmem => hsigns (List.mem_append_left ['?'] hmem)) h

theorem at_of_mem_behindHost (h : c ∈ u.behindHost) : c.is '@' = false := by
  rcases List.mem_append.mp h with h | h
  · exact is_false_of_mem_portText (by decide) (by decide) (by decide) h
  rcases List.mem_append.mp h with h | h
  · exact is_false_of_mem_databaseText (by decide) (by decide) h
  · exact is_false_of_mem_queryText (by decide) (by decide) h

theorem at_of_mem_hostText (hu : u.Formed) (hp : u.password = none) (h : c ∈ u.hostText) :
    c.is '@' = false := by
  unfold hostText at h
  split at h
  · exact absurd h List.not_mem_nil
  next host hhost =>
  have hat := hu.host_at hp host hhost
  split at h
  · rcases List.mem_append.mp h with h | h
    · rcases List.mem_append.mp h with h | h
      · obtain rfl := List.mem_singleton.mp h
        decide
      · exact hat c h
    · obtain rfl := List.mem_singleton.mp h
      decide
  · exact hat c h

theorem head?_queryText (h : c ∈ u.queryText.head?) : c.is '?' = true := by
  rw [queryText_eq] at h
  split at h
  · cases h
  · obtain rfl := Option.some.inj h
    decide

theorem head?_behindPort (h : c ∈ (u.databaseText ++ u.queryText).head?) :
    (c.is '/' || c.is '?') = true := by
  unfold databaseText at h
  split at h
  · rw [List.nil_append] at h
    rw [head?_queryText h, Bool.or_true]
  · obtain rfl := Option.some.inj h
    decide

theorem head?_behindHost (h : c ∈ u.behindHost.head?) :
    (!c.is '/' && !c.is ':' && !c.is '?') = false := by
  unfold behindHost portText at h
  split at h
  · obtain rfl := Option.some.inj h
    decide
  · have hport := head?_behindPort h
    rw [Bool.or_eq_true] at hport
    rcases hport with hport | hport
    · rw [hport]
      rfl
    · rw [hport, Bool.not_true, Bool.and_false]

end Signs

/-! ## The whole address -/

section Whole

variable {u : DatabaseUrl}

theorem takeDriver?_append (hu : u.Formed) (t : Text) :
    takeDriver? (u.driver ++ (Text.ofString "://" ++ t)) = some (u.driver, t) := by
  have hstop : ∀ c ∈ (Text.ofString "://" ++ t).head?, (c.isWord || c.is '+') = false := by
    intro c hc
    obtain rfl := Option.some.inj hc
    decide +kernel
  unfold takeDriver?
  simp only [Text.takeWhile_append_stop hu.driver hstop, Text.dropWhile_append_stop hu.driver hstop,
    Text.dropPrefix?_eq_some_iff.mpr rfl]
  rw [if_neg (by simpa using hu.driver_ne_nil)]
  rfl

theorem takeUser_userText (hu : u.Formed) {t : Text}
    (ht : u.password = none → ∀ c ∈ t, c.is '@' = false) :
    takeUser (u.userText ++ t) = ((u.user.map encodeUser, u.password.map encodeUser), t) := by
  have hencoded (s : Text) : ∀ c ∈ encodeUser s, (!c.is ':' && !c.is '/') = true := by
    intro c hc
    rw [is_false_of_mem_encodeUser (by decide) (by decide) hc,
      is_false_of_mem_encodeUser (by decide) (by decide) hc]
    rfl
  unfold userText
  cases huser : u.user with
  | none =>
    have hp := hu.password huser
    rw [hp]
    exact takeUser_of_forall (ht hp)
  | some user =>
    cases hp : u.password with
    | none =>
      simp only [List.append_nil, List.append_assoc]
      exact takeUser_user (hencoded user) (ht hp)
    | some password =>
      simp only [List.append_assoc]
      exact takeUser_password (hencoded user) fun c hc =>
        is_false_of_mem_encodeUser (by decide) (by decide) hc

/-- The host does not begin with a bracket. -/
def HostUnbracketed (u : DatabaseUrl) : Prop := ∀ host ∈ u.host, ∀ c ∈ host.head?, c.is '[' = false

instance (u : DatabaseUrl) : Decidable u.HostUnbracketed :=
  inferInstanceAs (Decidable (∀ host ∈ u.host, _))

theorem takeHost_hostText (hu : u.Formed) (hb : u.HostUnbracketed) :
    takeHost (u.hostText ++ u.behindHost) = (u.host, u.behindHost) := by
  unfold hostText
  cases hhost : u.host with
  | none => exact takeHost_nil fun c hc => head?_behindHost hc
  | some host =>
    have hne := hu.host_ne_nil host hhost
    have hsigns := hu.host host hhost
    simp only
    split
    · have hbracketed := takeBracketed?_append (s := u.portText)
        (r := u.databaseText ++ u.queryText) hne
        (fun c hc => by rw [(hsigns c hc).1, (hsigns c hc).2]; rfl)
        (fun c hc => ⟨?_, is_false_of_mem_portText (by decide) (by decide) (by decide) hc⟩)
        (fun c hc => by rw [← Bool.not_or, head?_behindPort hc]; rfl)
      · rw [List.append_assoc, List.append_assoc]
        unfold takeHost
        rw [show Text.ofString "[" ++ (host ++ (Text.ofString "]" ++ u.behindHost))
          = .ofChar '[' :: (host ++ .ofChar ']' :: (u.portText ++ (u.databaseText ++ u.queryText)))
          from rfl, hbracketed]
        rfl
      · rw [is_false_of_mem_portText (by decide) (by decide) (by decide) hc,
          is_false_of_mem_portText (by decide) (by decide) (by decide) hc]
        rfl
    · next hcolon =>
      refine takeHost_plain hne (hb host hhost) ?_ fun c hc => head?_behindHost hc
      intro c hc
      have hc' : c.is ':' = false :=
        Bool.eq_false_iff.mpr fun e => hcolon (List.any_eq_true.mpr ⟨c, hc, e⟩)
      rw [(hsigns c hc).1, (hsigns c hc).2, hc']
      rfl

/-- The address with the fields of its query in the order of their keys. -/
def sorted (u : DatabaseUrl) : DatabaseUrl := { u with query := u.sortedQuery }

theorem sortedQuery_perm (u : DatabaseUrl) : u.sortedQuery.Perm u.query := List.mergeSort_perm _ _

theorem sorted_eq_self {u : DatabaseUrl}
    (h : u.query.Pairwise fun a b => Text.le a.1 b.1 = true) : u.sorted = u := by
  unfold sorted sortedQuery
  rw [List.mergeSort_of_pairwise h]

theorem takePart_queryText (hu : u.Formed) (he : u.Encodable) :
    ((takePart '?' (fun c => !c.is '\n') u.queryText).1.map readQuery).getD [] = u.sortedQuery := by
  rw [queryText_eq]
  split
  · next hempty =>
    rw [sortedQuery, List.isEmpty_iff.mp hempty, List.mergeSort_nil]
    rfl
  · next hne =>
    have hformed := hu.query.perm u.sortedQuery_perm
    have hsorted : u.sortedQuery ≠ [] := fun hnil =>
      hne (List.isEmpty_iff.mpr (List.Perm.nil_eq (hnil ▸ u.sortedQuery_perm)).symm)
    have hencodable : QueryEncodable u.sortedQuery := fun e hm =>
      he.query e (u.sortedQuery_perm.mem_iff.mp hm)
    have htake : takePart '?' (fun c => !c.is '\n')
        (.ofChar '?' :: (joined (fieldsOf u.sortedQuery) ++ []))
        = (some (joined (fieldsOf u.sortedQuery)), []) := by
      refine takePart_append (fun c hc => ?_) fun c hc => absurd hc (Option.not_mem_none c)
      rw [is_false_of_mem_joined (by decide) (by decide) hc]
      rfl
    rw [List.append_nil] at htake
    rw [htake]
    exact readQuery_joined hformed hencodable hsorted

/-- The name of a database as it is written. -/
def encodeDatabase (t : Text) : Text :=
  Percent.encode (fun c => c.is ' ' || c.is '+' || c.is '/') t

theorem takePart_databaseText (u : DatabaseUrl) :
    takePart '/' (fun c => !c.is '?') (u.databaseText ++ u.queryText)
      = (u.database.map encodeDatabase, u.queryText) := by
  have hquestion : ∀ c ∈ u.queryText.head?, (!c.is '?') = false := by
    intro c hc
    rw [head?_queryText hc]
    rfl
  cases hdatabase : u.database with
  | none =>
    rw [databaseText, hdatabase]
    refine takePart_none fun c hc => ?_
    rw [CodePoint.eq_ofChar_of_is (head?_queryText hc)]
    decide
  | some database =>
    have hescaped : ∀ c ∈ encodeDatabase database, (!c.is '?') = true := by
      intro c hc
      rw [Percent.is_false_of_mem_encode (by decide) (by decide) rfl hc]
      rfl
    rw [databaseText, hdatabase]
    exact takePart_append hescaped hquestion

theorem takePart_portText (u : DatabaseUrl) :
    takePart ':' (fun c => !c.is '/' && !c.is '?') u.behindHost
      = (u.port.map Text.ofInt, u.databaseText ++ u.queryText) := by
  have hend : ∀ c ∈ (u.databaseText ++ u.queryText).head?, (!c.is '/' && !c.is '?') = false := by
    intro c hc
    rw [← Bool.not_or, head?_behindPort hc]
    rfl
  cases hport : u.port with
  | none =>
    rw [behindHost, portText, hport]
    refine takePart_none fun c hc => ?_
    rw [Bool.eq_false_iff]
    intro hcolon
    rw [CodePoint.eq_ofChar_of_is hcolon] at hc
    exact absurd (hend _ hc) (by decide)
  | some n =>
    have hdigits : ∀ c ∈ Text.ofInt n, (!c.is '/' && !c.is '?') = true := by
      intro c hc
      rw [is_false_of_mem_ofInt (by decide) (by decide) hc,
        is_false_of_mem_ofInt (by decide) (by decide) hc]
      rfl
    rw [behindHost, portText, hport]
    exact takePart_append hdigits hend

theorem map_decode_encode {isSafe : CodePoint → Bool} (hs : isSafe (.ofChar '%') = false)
    {part : Option Text} (h : ∀ t ∈ part, t.NoSurrogates) :
    (part.map (Percent.encode isSafe)).map Percent.decode = part := by
  cases part with
  | none => rfl
  | some t => exact congrArg some (Percent.decode_encoded hs (h t rfl))

/-- An address that is formed and has an unbracketed host is read back from its text. -/
theorem read_text (hu : u.Formed) (he : u.Encodable) (hb : u.HostUnbracketed) :
    read u.text = .ok u.sorted := by
  have hauthority : u.password = none → ∀ c ∈ u.hostText ++ u.behindHost, c.is '@' = false :=
    fun hp c hc => (List.mem_append.mp hc).elim (at_of_mem_hostText hu hp) at_of_mem_behindHost
  have huser : (u.user.map encodeUser).map Percent.decode = u.user := map_decode_encode rfl he.user
  have hpassword : (u.password.map encodeUser).map Percent.decode = u.password :=
    map_decode_encode rfl he.password
  have hdatabase : (u.database.map encodeDatabase).map Percent.decode = u.database :=
    map_decode_encode rfl he.database
  rw [text_eq, read, takeDriver?_append hu]
  simp only [takeUser_userText hu hauthority, takeHost_hostText hu hb, takePart_portText,
    takePart_databaseText, takePart_queryText hu he, huser, hpassword, hdatabase]
  unfold sorted
  cases hport : u.port with
  | none => rfl
  | some n =>
    simp only [Option.map_some, Text.readInteger_ofInt (hu.port n hport)]
    rfl

/-! ## Rendering -/

/-- The keys and values of a query whose keys all have values. -/
theorem queryParts_noSurrogates_iff {query : List (Text × List Text)} (hq : QueryFormed query) :
    (∀ part ∈ query.flatMap fun e => e.2.flatMap fun v => [e.1, v], part.NoSurrogates)
      ↔ QueryEncodable query := by
  constructor
  · intro h e he
    have hmem {v part : Text} (hv : v ∈ e.2) (hpart : part ∈ [e.1, v]) : part.NoSurrogates :=
      h part (List.mem_flatMap.mpr ⟨e, he, List.mem_flatMap.mpr ⟨v, hv, hpart⟩⟩)
    obtain ⟨v, hv⟩ := List.exists_mem_of_ne_nil _ (hq.values e he).1
    exact ⟨hmem hv List.mem_cons_self, fun w hw => hmem hw (by simp)⟩
  · intro h part hpart
    obtain ⟨e, he, hpart⟩ := List.mem_flatMap.mp hpart
    obtain ⟨v, hv, hpart⟩ := List.mem_flatMap.mp hpart
    rcases List.mem_cons.mp hpart with rfl | hpart
    · exact (h e he).1
    · obtain rfl := List.mem_singleton.mp hpart
      exact (h e he).2 _ hv

theorem escapedParts_noSurrogates_iff (hu : u.Formed) :
    (∀ part ∈ u.escapedParts, part.NoSurrogates) ↔ u.Encodable := by
  have hquery : (∀ part ∈ u.sortedQuery.flatMap fun e => e.2.flatMap fun v => [e.1, v],
      part.NoSurrogates) ↔ QueryEncodable u.query := by
    rw [queryParts_noSurrogates_iff (hu.query.perm u.sortedQuery_perm)]
    exact forall_congr' fun e => imp_congr_left u.sortedQuery_perm.mem_iff
  have hdatabase : (∀ part ∈ u.database.toList, part.NoSurrogates)
      ↔ ∀ database ∈ u.database, database.NoSurrogates := by
    simp
  unfold escapedParts
  rw [List.forall_mem_append, List.forall_mem_append, hdatabase]
  cases huser : u.user with
  | none =>
    have hpassword := hu.password huser
    constructor
    · rintro ⟨⟨-, hdatabase⟩, hfields⟩
      exact ⟨by simp [huser], by simp [hpassword], hdatabase, hquery.mp hfields⟩
    · intro he
      exact ⟨⟨by simp, he.database⟩, hquery.mpr he.query⟩
  | some user =>
    constructor
    · rintro ⟨⟨hauthority, hdatabase⟩, hfields⟩
      obtain ⟨huser', hpassword⟩ := List.forall_mem_cons.mp hauthority
      exact ⟨by simpa [huser] using huser', by simpa using hpassword, hdatabase, hquery.mp hfields⟩
    · intro he
      have hauthority : ∀ part ∈ user :: u.password.toList, part.NoSurrogates :=
        List.forall_mem_cons.mpr ⟨he.user user huser, by simpa using he.password⟩
      exact ⟨⟨hauthority, he.database⟩, hquery.mpr he.query⟩

/-- An address that is formed has a text exactly if no part that is escaped has surrogates. -/
theorem render_eq_ok_iff (hu : u.Formed) {t : Text} :
    u.render = .ok t ↔ u.Encodable ∧ t = u.text := by
  have hnone : u.escapedParts.findSome? EncodeError.of? = none ↔ u.Encodable := by
    simp only [List.findSome?_eq_none_iff, EncodeError.of?_eq_none_iff]
    exact escapedParts_noSurrogates_iff hu
  unfold render
  cases hfind : u.escapedParts.findSome? EncodeError.of? with
  | none =>
    simp only [hnone.mp hfind, true_and, Except.ok.injEq]
    exact eq_comm
  | some e =>
    have he : ¬u.Encodable := by
      intro he
      rw [hnone.mpr he] at hfind
      cases hfind
    simp [he]

end Whole

end Registry.DatabaseUrl
