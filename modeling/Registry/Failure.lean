import Registry.DateTime.Iso
import Registry.Input
import Registry.Metadata
import Registry.Refusal
import Registry.Text.Surrogate

/-!
# Failures

Every failure of the store is meant to be classified: it has one of three codes, a message and
perhaps the cause underneath. A cause that no operation classifies leaves the store as it is.
-/

namespace Registry

inductive ErrorCode
  | badRequest
  | notFound
  | internalServer
deriving DecidableEq

namespace ErrorCode

def name : ErrorCode → String
  | badRequest => "BAD_REQUEST"
  | notFound => "NOT_FOUND"
  | internalServer => "INTERNAL_SERVER"

/-- The status that a server would answer with. -/
def status : ErrorCode → Nat
  | badRequest => 400
  | notFound => 404
  | internalServer => 500

def ofName? (t : Text) : Option ErrorCode :=
  [badRequest, notFound, internalServer].find? fun c => Text.ofString c.name == t

/-- The category that a value names. -/
def ofValue? : Value → Option ErrorCode
  | .text t => ofName? t
  | _ => none

/-- The wording of the error for a value that names no category. -/
def unknownMessage (v : Value) : Text := v.shown ++ Text.ofString " is not a valid ErrorCode"

end ErrorCode

/-- What a database reports: a table that is missing or some other fault of its own, or rows that
break a rule of the table. -/
inductive DatabaseFault
  | operational
  | integrity
deriving DecidableEq

/-- What goes wrong underneath an operation; `uncopied` is a value that is nested too deeply to be
copied. -/
inductive Cause
  | metadata (e : MetadataError)
  | uncopied
  | date (e : IsoError)
  | dateKind
  | input (f : InputFailure)
  | unencodable (e : EncodeError)
  | timeout (message : Text)
  | refused (r : Refusal)
  | database (f : DatabaseFault)

structure Failure where
  code : ErrorCode
  message : Text
  cause : Option Cause

namespace Failure

/-- The text in which a failure is shown with its code. -/
def shown (f : Failure) : Text :=
  Text.ofString ("APIError(code=" ++ f.code.name ++ ", message=") ++ f.message.quoted
    ++ Text.ofString ")"

/-- A failure inside the store. -/
def internal (message : String) (cause : Cause) : Failure :=
  ⟨.internalServer, Text.ofString message, some cause⟩

/-- There is no identity of an id. -/
def notFound (id : Text) : Failure :=
  ⟨.notFound, Text.ofString "Identity with ID '" ++ id ++ Text.ofString "' not found", none⟩

/-- A request that asks for nothing. -/
def badRequest (message : String) : Failure := ⟨.badRequest, Text.ofString message, none⟩

end Failure

/-- How an operation of the store fails: classified, or by a cause that is passed on. -/
inductive StoreError
  | classified (f : Failure)
  | escaped (c : Cause)

namespace StoreError

/-- The error is a failure of a category. -/
def hasCode (code : ErrorCode) : StoreError → Bool
  | classified f => f.code == code
  | escaped _ => false

def isNotFound (e : StoreError) : Bool := e.hasCode .notFound

def isBadRequest (e : StoreError) : Bool := e.hasCode .badRequest

end StoreError

end Registry
