import Registry.Environment
import Registry.Text.Blank
import Registry.Text.Surrogate

/-!
# Templates

A template is a text with placeholders for environment variables: `NAME` is required, `NAME:-text`
has a default, `NAME:?text` has the message of the error when the variable is missing; each stands
between a dollar sign with an opening brace and a closing brace on one line. A line that is a
comment is copied as it is, and so is everything outside placeholders. What is put in is not read
again.
-/

namespace Registry.Template

/-- What a placeholder asks for. -/
inductive Expression
  | required (name : Text)
  | withDefault (name default : Text)
  | withMessage (name message : Text)
deriving DecidableEq

/-- The first placeholder without its variable, or with a name that no variable can have. -/
inductive TemplateError
  | unset (name : Text)
  | unsetBecause (name message : Text)
  | unencodable (e : EncodeError)
deriving DecidableEq

def TemplateError.message : TemplateError → Text
  | unset name => Text.ofString "Required environment variable " ++ name ++ Text.ofString " not set"
  | unsetBecause name message =>
    Text.ofString "Required environment variable " ++ name ++ Text.ofString ": " ++ message
  | unencodable e => e.message

/-- The value of a variable, whose name has to be one that a variable can have. -/
def lookup (env : Environment) (name : Text) : Except TemplateError (Option Text) :=
  match EncodeError.ofName? name with
  | some e => .error (.unencodable e)
  | none => .ok (env.get? name)

namespace Expression

/-- The expression that a text is: a default counts before a message. -/
def ofText (t : Text) : Expression :=
  match Text.splitFirst? (Text.ofString ":-") t with
  | some (name, default) => withDefault name default
  | none =>
    match Text.splitFirst? (Text.ofString ":?") t with
    | some (name, message) => withMessage name message
    | none => required t

/-- The text that an expression stands for. -/
def eval (env : Environment) : Expression → Except TemplateError Text
  | required name =>
    match lookup env name with
    | .error e => .error e
    | .ok (some value) => .ok value
    | .ok none => .error (.unset name)
  | withDefault name default => (lookup env name).map (·.getD default)
  | withMessage name message =>
    match lookup env name with
    | .error e => .error e
    | .ok (some value) => .ok value
    | .ok none => .error (.unsetBecause name message)

end Expression

/-- The expression of the placeholder that a text begins with. -/
def placeholder? (t : Text) : Option Text :=
  match Text.dropPrefix? (Text.ofString "$\x7b") t with
  | none => none
  | some rest =>
    let expression := rest.takeWhile fun c => !c.is '\x7d'
    if expression.isEmpty || (rest.drop expression.length).isEmpty then none else some expression

/-- The code points around the expression of a placeholder. -/
def delimiterLength : Nat := 3

/-- Replaces the placeholders of a line, `skip` code points of which belong to a placeholder that
has been replaced. -/
def substituteLine (env : Environment) : (skip : Nat) → Text → Except TemplateError Text
  | _, [] => .ok []
  | skip + 1, _ :: rest => substituteLine env skip rest
  | 0, c :: rest =>
    match placeholder? (c :: rest) with
    | none => (substituteLine env 0 rest).map (c :: ·)
    | some expression =>
      match (Expression.ofText expression).eval env with
      | .error e => .error e
      | .ok value =>
        (substituteLine env (expression.length + delimiterLength - 1) rest).map (value ++ ·)

/-- A line whose first code point that is not blank is a number sign. -/
def isComment (line : Text) : Bool :=
  (line.dropWhile CodePoint.isBlank).head?.any (CodePoint.is · '#')

def substituteLines (env : Environment) : List Text → Except TemplateError Text
  | [] => .ok []
  | line :: rest =>
    match if isComment line then .ok line else substituteLine env 0 line with
    | .error e => .error e
    | .ok t => (substituteLines env rest).map (t ++ ·)

/-- The text of a template in an environment. -/
def substitute (env : Environment) (t : Text) : Except TemplateError Text :=
  substituteLines env t.lines

end Registry.Template
