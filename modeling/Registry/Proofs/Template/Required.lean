import Registry.Proofs.Template.Substitution

/-!
# Required variables with a message

A placeholder with a message stands for a variable that is required, as long as the message has no
separator of a default in it (`Template.required_iff`). A message with one makes a default of its
end, and what stands before it is taken for the name of the variable: in the empty environment
`A:?see b:-c` gives `c` (`Template.required_misread`).
-/

namespace Registry.Template

variable {e name message m default before after t : Text} {env : Environment}

/-- The expression of a variable with a message. -/
def requiredExpression (name message : Text) : Text := name ++ (Text.ofString ":?" ++ message)

/-- The separator of a default is looked for behind that of the message, which has none. -/
theorem splitFirst?_default (hname : .ofChar ':' ∉ name) (message : Text) :
    Text.splitFirst? (Text.ofString ":-") (requiredExpression name message)
      = (Text.splitFirst? (Text.ofString ":-") message).map
          fun (m, default) => (requiredExpression name m, default) := by
  have hcolon : Text.dropPrefix? (Text.ofString ":-")
      (.ofChar ':' :: .ofChar '?' :: message) = none := rfl
  have hmark : Text.dropPrefix? (Text.ofString ":-") (.ofChar '?' :: message) = none := rfl
  have hseparator : Text.splitFirst? (Text.ofString ":-") (Text.ofString ":?" ++ message)
      = (Text.splitFirst? (Text.ofString ":-") message).map
          fun (m, default) => (Text.ofString ":?" ++ m, default) := by
    show Text.splitFirst? (Text.ofString ":-") (.ofChar ':' :: .ofChar '?' :: message) = _
    rw [Text.splitFirst?_cons hcolon, Text.splitFirst?_cons hmark, Option.map_map]
    rfl
  have happend : Text.splitFirst? (Text.ofString ":-") (name ++ (Text.ofString ":?" ++ message))
      = (Text.splitFirst? (Text.ofString ":-") (Text.ofString ":?" ++ message)).map
          fun (b, a) => (name ++ b, a) :=
    Text.splitFirst?_append_of_not_mem hname _
  rw [requiredExpression, happend, hseparator, Option.map_map]
  rfl

theorem splitFirst?_message (hname : .ofChar ':' ∉ name) (message : Text) :
    Text.splitFirst? (Text.ofString ":?") (requiredExpression name message)
      = some (name, message) := by
  have happend : Text.splitFirst? (Text.ofString ":?") (name ++ (Text.ofString ":?" ++ message))
      = (Text.splitFirst? (Text.ofString ":?") (Text.ofString ":?" ++ message)).map
          fun (b, a) => (name ++ b, a) :=
    Text.splitFirst?_append_of_not_mem hname _
  have hfirst : Text.splitFirst? (Text.ofString ":?") (Text.ofString ":?" ++ message)
      = some ([], message) := rfl
  rw [requiredExpression, happend, hfirst]
  simp

/-- A message without the separator of a default leaves the variable required. -/
theorem ofText_requiredExpression (hname : .ofChar ':' ∉ name)
    (hmessage : ¬Text.ofString ":-" <:+: message) :
    Expression.ofText (requiredExpression name message) = .withMessage name message := by
  rw [Expression.ofText, splitFirst?_default hname, Text.splitFirst?_eq_none_iff.mpr hmessage,
    splitFirst?_message hname]
  rfl

/-- A message with the separator of a default gives a default, for a variable that is named by all
that stands before. -/
theorem ofText_requiredExpression_default (hname : .ofChar ':' ∉ name)
    (hmessage : Text.CutsFirst (Text.ofString ":-") message m default) :
    Expression.ofText (requiredExpression name message)
      = .withDefault (requiredExpression name m) default := by
  rw [Expression.ofText, splitFirst?_default hname, Text.splitFirst?_eq_some_iff.mpr hmessage]
  rfl

/-- A template with one placeholder gives what the placeholder does, between what stands around. -/
theorem substitute_placeholder
    (h : Consists t (before.map .copied ++ .placeholder e :: after.map .copied)) :
    substitute env t = ((Expression.ofText e).eval env).map fun v => before ++ (v ++ after) := by
  rw [substitute_eq_fill h, fill_append, fill_copied]
  cases heval : (Expression.ofText e).eval env with
  | error fault =>
    rw [fill_cons_error (p := .placeholder e) heval]
    rfl
  | ok v =>
    rw [fill_cons_ok (p := .placeholder e) heval, fill_copied]
    rfl

/-- A code point that is no dollar sign begins no placeholder. -/
theorem Scan.append_plain {s : Text} {ps : List Part} (hs : .ofChar '$' ∉ s) (h : Scan t ps) :
    Scan (s ++ t) (s.map .copied ++ ps) := by
  induction s with
  | nil => exact h
  | cons c s ih =>
    rw [List.mem_cons, not_or] at hs
    refine .copied ?_ (ih hs.2)
    rintro ⟨e, rest, -, heq⟩
    exact hs.1 (List.cons.inj heq).1.symm

/-- A line with one placeholder and no other dollar sign. -/
theorem consists_of_line (before e after : Text) (he : IsExpression e)
    (hbefore : .ofChar '$' ∉ before) (hafter : .ofChar '$' ∉ after)
    (hline : ∀ c ∈ before ++ (placeholderText e ++ after), c.isLineBoundary = false)
    (hcomment : ¬IsCommentLine (before ++ (placeholderText e ++ after))) :
    Consists (before ++ (placeholderText e ++ after))
      (before.map .copied ++ .placeholder e :: after.map .copied) := by
  have hnil : Scan (after ++ []) (after.map .copied ++ []) := .append_plain hafter .nil
  rw [List.append_nil, List.append_nil] at hnil
  have hscan := (Scan.placeholder he hnil).append_plain hbefore
  refine ⟨_, _, .last ?_ hline, .cons (.scanned hcomment hscan) .nil, ?_⟩
  · simp [placeholderText]
  · simp

/-- A template whose only placeholder is that of a variable with a message: if the variable is not
set, it is an error exactly if the message has no separator of a default. In a message that has one,
the rest is a default. -/
theorem required_iff (hname : .ofChar ':' ∉ name) (hnameable : EncodeError.ofName? name = none)
    (h : Consists t (before.map .copied
      ++ .placeholder (requiredExpression name message) :: after.map .copied)) :
    (env.get? name = none →
        (substitute env t = .error (.unsetBecause name message)
          ↔ ¬Text.ofString ":-" <:+: message))
      ∧ (¬Text.ofString ":-" <:+: message → ∀ value, env.get? name = some value →
        substitute env t = .ok (before ++ (value ++ after)))
      ∧ (∀ m default, Text.CutsFirst (Text.ofString ":-") message m default →
        substitute env t = (lookup env (requiredExpression name m)).map
          fun value => before ++ (value.getD default ++ after))
      ∧ (TemplateError.unsetBecause name message).message
        = Text.ofString "Required environment variable " ++ name ++ Text.ofString ": "
          ++ message := by
  have hlookup : lookup env name = .ok (env.get? name) := by rw [lookup, hnameable]
  have hdefault : ∀ m default, Text.CutsFirst (Text.ofString ":-") message m default →
      substitute env t = (lookup env (requiredExpression name m)).map
        fun value => before ++ (value.getD default ++ after) := by
    intro m default hcut
    rw [substitute_placeholder h, ofText_requiredExpression_default hname hcut, Expression.eval]
    cases lookup env (requiredExpression name m) <;> rfl
  refine ⟨?_, ?_, hdefault, rfl⟩
  · intro hunset
    constructor
    · intro herror hinfix
      obtain ⟨⟨m, default⟩, hsplit⟩ := Option.isSome_iff_exists.mp (Text.hasInfix_iff.mpr hinfix)
      rw [hdefault m default (Text.splitFirst?_cutsFirst hsplit), lookup] at herror
      split at herror <;> cases herror
    · intro hmessage
      rw [substitute_placeholder h, ofText_requiredExpression hname hmessage, Expression.eval,
        hlookup, hunset]
      rfl
  · intro hmessage value hvalue
    rw [substitute_placeholder h, ofText_requiredExpression hname hmessage, Expression.eval,
      hlookup, hvalue]
    rfl

/-- The variable is there or the message is the error, whatever stands around. -/
theorem required_iff_demanding :
    substitute [] (Text.ofString "a $\x7bA:?no A: - or :?\x7d b")
        = .error (.unsetBecause (Text.ofString "A") (Text.ofString "no A: - or :?"))
      ∧ substitute [(Text.ofString "A", Text.ofString "1")]
          (Text.ofString "a $\x7bA:?no A: - or :?\x7d b")
        = .ok (Text.ofString "a 1 b") := by
  have hname : CodePoint.ofChar ':' ∉ Text.ofString "A" := by decide
  have hmessage : ¬Text.ofString ":-" <:+: Text.ofString "no A: - or :?" :=
    mt Text.hasInfix_iff.mpr (by decide +kernel)
  have hexpression : IsExpression
      (requiredExpression (Text.ofString "A") (Text.ofString "no A: - or :?")) :=
    ⟨by decide, by decide +kernel⟩
  have hconsists := consists_of_line (Text.ofString "a ") _ (Text.ofString " b") hexpression
    (by decide) (by decide) (by decide +kernel) (mt isComment_iff.mpr (by decide +kernel))
  have hunset : Environment.get? [] (Text.ofString "A") = none := rfl
  have hset : Environment.get? [(Text.ofString "A", Text.ofString "1")] (Text.ofString "A")
      = some (Text.ofString "1") := by decide +kernel
  constructor
  · exact ((required_iff hname (by decide +kernel) hconsists).1 hunset).mpr hmessage
  · exact (required_iff hname (by decide +kernel) hconsists).2.1 hmessage _ hset

/-- The variable is required and not set, but its message ends with what becomes a default. -/
theorem required_misread :
    Consists (Text.ofString "$\x7bA:?see b:-c\x7d")
        [.placeholder (requiredExpression (Text.ofString "A") (Text.ofString "see b:-c"))]
      ∧ Environment.get? [] (Text.ofString "A") = none
      ∧ substitute [] (Text.ofString "$\x7bA:?see b:-c\x7d") = .ok (Text.ofString "c") := by
  have hexpression : IsExpression
      (requiredExpression (Text.ofString "A") (Text.ofString "see b:-c")) :=
    ⟨by decide, by decide +kernel⟩
  refine ⟨?_, rfl, by decide +kernel⟩
  exact consists_of_line [] _ [] hexpression (by decide) (by decide) (by decide +kernel)
    (mt isComment_iff.mpr (by decide +kernel))

end Registry.Template
