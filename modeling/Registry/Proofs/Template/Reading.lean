import Registry.Proofs.Outcome
import Registry.Proofs.Text.Cutting
import Registry.Proofs.Text.Digits
import Registry.Proofs.Text.Lines
import Registry.Template

/-!
# What a template consists of

A template consists of code points that are copied and of placeholders with their expressions
(`Template.Consists`): every code point of a comment is copied, and in any other line a placeholder
is wherever one begins, from left to right. A template consists of the same parts however it is read
(`Template.Consists.unique`), and every text is one (`Template.exists_consists`).

What a placeholder asks for goes by the first separator in its expression (`Template.Asks`).
-/

namespace Registry.Template

/-! ## Placeholders -/

/-- What can be the expression of a placeholder: something without a closing brace. -/
structure IsExpression (e : Text) : Prop where
  ne_nil : e ≠ []
  unclosed : ∀ c ∈ e, c ≠ .ofChar '\x7d'

def placeholderText (e : Text) : Text := Text.ofString "$\x7b" ++ (e ++ [.ofChar '\x7d'])

def BeginsPlaceholder (t : Text) : Prop :=
  ∃ e rest, IsExpression e ∧ t = placeholderText e ++ rest

variable {c : CodePoint} {e t rest : Text}

theorem placeholderText_append (e rest : Text) :
    placeholderText e ++ rest = Text.ofString "$\x7b" ++ (e ++ .ofChar '\x7d' :: rest) := by
  simp [placeholderText]

/-- An expression ends at the first closing brace. -/
theorem IsExpression.takeWhile (he : IsExpression e) (rest : Text) :
    (e ++ .ofChar '\x7d' :: rest).takeWhile (fun c => !c.is '\x7d') = e := by
  apply Text.takeWhile_append_stop
  · intro c hc
    simpa [CodePoint.is] using he.unclosed c hc
  · simp [CodePoint.is]

/-- What follows the code points before a closing brace begins with it. -/
theorem exists_eq_takeWhile_append
    (h : rest.drop (rest.takeWhile fun c => !c.is '\x7d').length ≠ []) :
    ∃ more, rest = rest.takeWhile (fun c => !c.is '\x7d') ++ .ofChar '\x7d' :: more := by
  have hsplit := List.takeWhile_append_dropWhile (p := fun c => !c.is '\x7d') (l := rest)
  have hhead := List.head?_dropWhile_not (fun c => !c.is '\x7d') rest
  generalize rest.takeWhile (fun c => !c.is '\x7d') = run at *
  generalize rest.dropWhile (fun c => !c.is '\x7d') = more at *
  subst hsplit
  rw [List.drop_left] at h
  obtain ⟨c, more, rfl⟩ := List.exists_cons_of_ne_nil h
  have hc : c = .ofChar '\x7d' := by simpa [CodePoint.is] using hhead
  exact ⟨more, by rw [hc]⟩

/-- Where a placeholder ends is decided by its beginning. -/
theorem placeholderText_injective {e' rest' : Text} (he : IsExpression e) (he' : IsExpression e')
    (h : placeholderText e ++ rest = placeholderText e' ++ rest') : e = e' ∧ rest = rest' := by
  rw [placeholderText_append, placeholderText_append] at h
  replace h := List.append_cancel_left h
  have heq : e = e' := by
    rw [← he.takeWhile rest, h, he'.takeWhile rest']
  subst heq
  exact ⟨rfl, (List.cons.inj (List.append_cancel_left h)).2⟩

/-- The program finds a placeholder exactly where one begins. -/
theorem placeholder?_eq_some_iff :
    placeholder? t = some e ↔ IsExpression e ∧ ∃ rest, t = placeholderText e ++ rest := by
  unfold placeholder?
  constructor
  · intro h
    split at h
    · cases h
    · next rest hrest =>
      simp only [Option.ite_none_left_eq_some, Bool.or_eq_true, not_or, List.isEmpty_iff,
        Option.some.injEq] at h
      obtain ⟨⟨hne, hclosed⟩, rfl⟩ := h
      obtain ⟨more, hmore⟩ := exists_eq_takeWhile_append hclosed
      refine ⟨⟨hne, fun c hc => ?_⟩, more, ?_⟩
      · simpa [CodePoint.is] using List.mem_takeWhile_imp hc
      · rw [placeholderText_append, ← hmore]
        exact Text.dropPrefix?_eq_some_iff.mp hrest
  · rintro ⟨he, rest, rfl⟩
    have hopen : Text.dropPrefix? (Text.ofString "$\x7b") (placeholderText e ++ rest)
        = some (e ++ .ofChar '\x7d' :: rest) :=
      Text.dropPrefix?_eq_some_iff.mpr (placeholderText_append e rest)
    simp only [hopen, he.takeWhile, List.drop_left]
    rw [if_neg]
    simp [he.ne_nil]

/-! ## The parts of a line -/

inductive Part
  | copied (c : CodePoint)
  | placeholder (expression : Text)
deriving DecidableEq

namespace Part

/-- The part as it stands in a template. -/
def source : Part → Text
  | copied c => [c]
  | placeholder e => placeholderText e

end Part

/-- The parts of a line that is no comment: a placeholder wherever one begins, and each code point
besides. -/
inductive Scan : Text → List Part → Prop
  | nil : Scan [] []
  | placeholder {e rest : Text} {ps : List Part} (he : IsExpression e)
      (hrest : Scan rest ps) :
      Scan (placeholderText e ++ rest) (.placeholder e :: ps)
  | copied {c : CodePoint} {rest : Text} {ps : List Part}
      (hc : ¬BeginsPlaceholder (c :: rest)) (hrest : Scan rest ps) :
      Scan (c :: rest) (.copied c :: ps)

/-- A line whose first code point that is not blank is a number sign. -/
def IsCommentLine (line : Text) : Prop :=
  ∃ blanks rest, line = blanks ++ .ofChar '#' :: rest ∧ ∀ c ∈ blanks, c.isBlank = true

/-- The parts of a line: those of a comment are its code points. -/
inductive LineConsists (line : Text) : List Part → Prop
  | comment (hline : IsCommentLine line) : LineConsists line (line.map .copied)
  | scanned {ps : List Part} (hline : ¬IsCommentLine line) (hscan : Scan line ps) :
      LineConsists line ps

/-- The parts of a template are those of its lines. -/
def Consists (t : Text) (ps : List Part) : Prop :=
  ∃ ls parts, Text.Cut t ls ∧ List.Forall₂ LineConsists ls parts ∧ ps = parts.flatten

variable {ls : List Text} {ps qs : List Part}

theorem exists_scan (line : Text) : ∃ ps, Scan line ps := by
  induction hn : line.length using Nat.strongRecOn generalizing line with
  | _ n ih =>
    cases line with
    | nil => exact ⟨[], .nil⟩
    | cons c rest =>
      simp only [List.length_cons] at hn
      by_cases hbegins : BeginsPlaceholder (c :: rest)
      · obtain ⟨e, more, he, heq⟩ := hbegins
        have hlength := congrArg List.length heq
        simp only [placeholderText_append, List.length_append, List.length_cons] at hlength
        obtain ⟨ps, hps⟩ := ih more.length (by omega) more rfl
        rw [heq]
        exact ⟨_, .placeholder he hps⟩
      · obtain ⟨ps, hps⟩ := ih rest.length (by omega) rest rfl
        exact ⟨_, .copied hbegins hps⟩

theorem Scan.unique {line : Text} (h : Scan line ps) (h' : Scan line qs) :
    qs = ps := by
  induction h generalizing qs with
  | nil =>
    generalize hline : ([] : Text) = line at h'
    cases h' with
    | nil => rfl
    | placeholder he hrest => cases hline
    | copied hc hrest => cases hline
  | @placeholder e rest ps he hrest ih =>
    generalize hline : placeholderText e ++ rest = line at h'
    cases h' with
    | nil => cases hline
    | placeholder he' hrest' =>
      obtain ⟨rfl, rfl⟩ := placeholderText_injective he he' hline
      rw [ih hrest']
    | copied hc hrest' => exact absurd ⟨e, rest, he, hline.symm⟩ hc
  | @copied c rest ps hc hrest ih =>
    generalize hline : c :: rest = line at h'
    cases h' with
    | nil => cases hline
    | placeholder he' hrest' => exact absurd ⟨_, _, he', hline⟩ hc
    | copied hc' hrest' =>
      cases hline
      rw [ih hrest']

theorem source_copied (line : Text) :
    ((line.map Part.copied).map Part.source).flatten = line := by
  induction line with
  | nil => rfl
  | cons c line ih =>
    rw [List.map_cons, List.map_cons, List.flatten_cons, ih]
    rfl

/-- Reading a line loses nothing. -/
theorem Scan.source {line : Text} (h : Scan line ps) :
    (ps.map Part.source).flatten = line := by
  induction h with
  | nil => rfl
  | placeholder he hrest ih => rw [List.map_cons, List.flatten_cons, ih, Part.source]
  | copied hc hrest ih =>
    rw [List.map_cons, List.flatten_cons, ih, Part.source, List.singleton_append]

/-- A single code point is no placeholder. -/
theorem not_beginsPlaceholder_singleton (c : CodePoint) : ¬BeginsPlaceholder [c] := by
  rintro ⟨e, rest, he, heq⟩
  have hlength := congrArg List.length heq
  have hopen : (Text.ofString "$\x7b").length = 2 := rfl
  simp only [placeholderText_append, List.length_append, List.length_cons, List.length_nil,
    hopen] at hlength
  omega

/-- A code point at the end that is no closing brace makes no placeholder. -/
theorem BeginsPlaceholder.of_append (hc : c ≠ .ofChar '\x7d')
    (h : BeginsPlaceholder (t ++ [c])) : BeginsPlaceholder t := by
  obtain ⟨e, rest, he, heq⟩ := h
  have hlast := congrArg List.getLast? heq
  rcases List.eq_nil_or_concat rest with rfl | ⟨more, d, rfl⟩
  · simp [placeholderText] at hlast
    exact absurd hlast hc
  · rw [List.concat_eq_append, ← List.append_assoc] at heq
    exact ⟨e, more, he, (List.append_inj' heq rfl).1⟩

theorem Scan.append {line : Text} (h : Scan line ps) (hc : c ≠ .ofChar '\x7d') :
    Scan (line ++ [c]) (ps ++ [.copied c]) := by
  induction h with
  | nil => exact .copied (not_beginsPlaceholder_singleton c) .nil
  | placeholder he hrest ih =>
    rw [List.append_assoc]
    exact .placeholder he ih
  | copied hbegins hrest ih => exact .copied (fun h => hbegins (h.of_append hc)) ih

/-! ## Comments -/

theorem isComment_iff {line : Text} : isComment line = true ↔ IsCommentLine line := by
  unfold isComment
  constructor
  · intro h
    have hsplit := List.takeWhile_append_dropWhile (p := CodePoint.isBlank) (l := line)
    cases hrest : line.dropWhile CodePoint.isBlank with
    | nil => simp [hrest] at h
    | cons c rest =>
      obtain rfl : c = .ofChar '#' := by simpa [hrest, CodePoint.is] using h
      rw [hrest] at hsplit
      exact ⟨_, rest, hsplit.symm, fun c hc => List.mem_takeWhile_imp hc⟩
  · rintro ⟨blanks, rest, rfl, hblanks⟩
    rw [List.dropWhile_append_of_pos hblanks]
    rfl

/-- A line feed at its end does not make a line a comment. -/
theorem isCommentLine_append_newline {line : Text} :
    IsCommentLine (line ++ [.ofChar '\n']) ↔ IsCommentLine line := by
  constructor
  · rintro ⟨blanks, rest, heq, hblanks⟩
    rcases List.eq_nil_or_concat rest with rfl | ⟨more, d, rfl⟩
    · have hsign := (List.append_inj' heq rfl).2
      cases hsign
    · rw [List.concat_eq_append, ← List.cons_append, ← List.append_assoc] at heq
      exact ⟨blanks, more, (List.append_inj' heq rfl).1, hblanks⟩
  · rintro ⟨blanks, rest, rfl, hblanks⟩
    exact ⟨blanks, rest ++ [.ofChar '\n'], by simp, hblanks⟩

/-! ## The parts of a template -/

theorem exists_lineConsists (line : Text) : ∃ ps, LineConsists line ps := by
  by_cases hline : IsCommentLine line
  · exact ⟨_, .comment hline⟩
  · obtain ⟨ps, hscan⟩ := exists_scan line
    exact ⟨ps, .scanned hline hscan⟩

theorem LineConsists.unique {line : Text} (h : LineConsists line ps)
    (h' : LineConsists line qs) : qs = ps := by
  cases h with
  | comment hline =>
    cases h' with
    | comment => rfl
    | scanned hline' => exact absurd hline hline'
  | scanned hline hscan =>
    cases h' with
    | comment hline' => exact absurd hline' hline
    | scanned _ hscan' => exact hscan.unique hscan'

theorem LineConsists.source {line : Text} (h : LineConsists line ps) :
    (ps.map Part.source).flatten = line := by
  cases h with
  | comment => exact source_copied line
  | scanned _ hscan => exact hscan.source

theorem LineConsists.append_newline {line : Text} (h : LineConsists line ps) :
    LineConsists (line ++ [.ofChar '\n']) (ps ++ [.copied (.ofChar '\n')]) := by
  cases h with
  | comment hline =>
    rw [show [Part.copied (.ofChar '\n')] = [CodePoint.ofChar '\n'].map .copied from rfl,
      ← List.map_append]
    exact .comment (isCommentLine_append_newline.mpr hline)
  | scanned hline hscan =>
    exact .scanned (fun h => hline (isCommentLine_append_newline.mp h))
      (hscan.append (by decide))

theorem exists_forall₂_lineConsists (ls : List Text) :
    ∃ parts, List.Forall₂ LineConsists ls parts :=
  exists_forall₂_iff.mpr fun line _ => exists_lineConsists line

theorem forall₂_lineConsists_unique {parts parts' : List (List Part)}
    (h : List.Forall₂ LineConsists ls parts) (h' : List.Forall₂ LineConsists ls parts') :
    parts' = parts := by
  have hunique : Relator.RightUnique LineConsists := fun _ _ _ h h' => h'.unique h
  exact hunique.forall₂ h' h

theorem exists_consists (t : Text) : ∃ ps, Consists t ps := by
  obtain ⟨parts, hparts⟩ := exists_forall₂_lineConsists t.lines
  exact ⟨_, t.lines, parts, Text.cut_iff.mpr rfl, hparts, rfl⟩

theorem Consists.unique (h : Consists t ps) (h' : Consists t qs) : qs = ps := by
  obtain ⟨ls, parts, hcut, hparts, rfl⟩ := h
  obtain ⟨ls', parts', hcut', hparts', rfl⟩ := h'
  obtain rfl : ls = ls' := hcut.lines_eq.symm.trans hcut'.lines_eq
  rw [forall₂_lineConsists_unique hparts hparts']

/-- Reading a template loses nothing. -/
theorem Consists.source (h : Consists t ps) : (ps.map Part.source).flatten = t := by
  obtain ⟨ls, parts, hcut, hparts, rfl⟩ := h
  rw [← Text.lines_flatten t, hcut.lines_eq]
  clear hcut
  induction hparts with
  | nil => rfl
  | cons hline _ ih =>
    rw [List.flatten_cons, List.map_append, List.flatten_append, hline.source, ih,
      List.flatten_cons]

/-- A line feed after a carriage return belongs to its line, and is copied as on a line of its
own. -/
theorem Consists.append_feed {a b : Text} (ha : Consists a ps)
    (hb : Consists (.ofChar '\n' :: b) qs) (h : a.getLast? = some (.ofChar '\r')) :
    Consists (a ++ .ofChar '\n' :: b) (ps ++ qs) := by
  obtain ⟨init, last, ha', hab⟩ := Text.lines_append_pair h b
  have hend : Text.endsLine (.ofChar '\n') b = true := rfl
  have hb' : Text.lines (.ofChar '\n' :: b) = [.ofChar '\n'] :: Text.lines b :=
    Text.lines_of_endsLine hend
  obtain ⟨iparts, hinit⟩ := exists_forall₂_lineConsists init
  obtain ⟨lparts, hlast⟩ := exists_lineConsists last
  obtain ⟨bparts, hbparts⟩ := exists_forall₂_lineConsists (Text.lines b)
  have hfeed : LineConsists [.ofChar '\n'] [.copied (.ofChar '\n')] := by
    refine LineConsists.append_newline (.scanned ?_ .nil)
    rintro ⟨blanks, rest, heq, -⟩
    simp at heq
  obtain rfl : ps = (iparts ++ [lparts]).flatten :=
    Consists.unique ⟨_, _, Text.cut_iff.mpr ha', List.rel_append hinit (.cons hlast .nil), rfl⟩ ha
  obtain rfl : qs = ([.copied (.ofChar '\n')] :: bparts).flatten :=
    Consists.unique ⟨_, _, Text.cut_iff.mpr hb', .cons hfeed hbparts, rfl⟩ hb
  refine ⟨_, _, Text.cut_iff.mpr hab,
    List.rel_append hinit (.cons hlast.append_newline hbparts), ?_⟩
  simp

/-- After the end of a line the parts are those of the rest alone. -/
theorem Consists.append {a b : Text} (ha : Consists a ps) (hb : Consists b qs)
    (h : ∀ c ∈ a.getLast?, c.isLineBoundary = true) : Consists (a ++ b) (ps ++ qs) := by
  by_cases hpair : a.getLast? = some (.ofChar '\r') ∧ b.head? = some (.ofChar '\n')
  · obtain ⟨hreturn, hfeed⟩ := hpair
    obtain ⟨rest, rfl⟩ := List.head?_eq_some_iff.mp hfeed
    exact ha.append_feed hb hreturn
  · obtain ⟨as, aparts, hacut, haparts, rfl⟩ := ha
    obtain ⟨bs, bparts, hbcut, hbparts, rfl⟩ := hb
    refine ⟨as ++ bs, aparts ++ bparts, Text.cut_iff.mpr ?_, List.rel_append haparts hbparts,
      List.flatten_append.symm⟩
    rw [← hacut.lines_eq, ← hbcut.lines_eq]
    apply Text.lines_append
    intro c hc
    refine Text.endsLine_iff.mpr ⟨h c hc, ?_⟩
    rintro ⟨rfl, hfeed⟩
    exact hpair ⟨hc, hfeed⟩

/-! ## What an expression asks for -/

/-- What an expression asks for goes by the first separator of a default in it, and where there is
none by the first separator of a message. -/
inductive Asks (e : Text) : Expression → Prop
  | withDefault {name default : Text} (h : Text.CutsFirst (Text.ofString ":-") e name default) :
      Asks e (.withDefault name default)
  | withMessage {name message : Text} (hdefault : ¬Text.ofString ":-" <:+: e)
      (h : Text.CutsFirst (Text.ofString ":?") e name message) :
      Asks e (.withMessage name message)
  | required (hdefault : ¬Text.ofString ":-" <:+: e) (hmessage : ¬Text.ofString ":?" <:+: e) :
      Asks e (.required e)

theorem asks_ofText (e : Text) : Asks e (.ofText e) := by
  unfold Expression.ofText
  split
  · next h => exact .withDefault (Text.splitFirst?_cutsFirst h)
  · next hdefault =>
    have hdefault := Text.splitFirst?_eq_none hdefault
    split
    · next h => exact .withMessage hdefault (Text.splitFirst?_cutsFirst h)
    · next hmessage => exact .required hdefault (Text.splitFirst?_eq_none hmessage)

theorem asks_iff {x : Expression} : Asks e x ↔ Expression.ofText e = x := by
  constructor
  · intro h
    cases h with
    | withDefault h => rw [Expression.ofText, Text.splitFirst?_eq_some_iff.mpr h]
    | withMessage hdefault h =>
      rw [Expression.ofText, Text.splitFirst?_eq_none_iff.mpr hdefault,
        Text.splitFirst?_eq_some_iff.mpr h]
    | required hdefault hmessage =>
      rw [Expression.ofText, Text.splitFirst?_eq_none_iff.mpr hdefault,
        Text.splitFirst?_eq_none_iff.mpr hmessage]
  · rintro rfl
    exact asks_ofText e

end Registry.Template
