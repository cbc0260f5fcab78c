import Registry.Identifier
import Registry.Identity.Patch
import Registry.Repository.ReadTimeout
import Registry.Repository.Row

/-!
# The identity repository

Creating, reading, changing and deleting identities in a database. Every operation is one session
and gives its result with the database afterwards; an operation that fails leaves the database as it
was.

Failures are classified where they are expected. What is not expected there escapes: a stored date
that is no text, a date whose instant no calendar date at UTC has, metadata nested too deeply to be
written, copied or read, and in some operations texts that cannot be bound.
-/

namespace Registry

/-- The result of an operation, and the database afterwards. -/
structure Outcome (α : Type) where
  result : Except StoreError α
  database : Database

namespace Outcome

/-- A failure that leaves the database as it was. -/
def failed (s : Session) (e : StoreError) : Outcome α := ⟨.error e, s.rollback.committed⟩

/-- A classified failure that leaves the database as it was. -/
def classified (s : Session) (f : Failure) : Outcome α := failed s (.classified f)

end Outcome

/-- The failure of a statement under a message: only what the database reports is classified. -/
def StatementError.classify (message : String) : StatementError → StoreError
  | database f => .classified (Failure.internal message (.database f))
  | unencodable e => .escaped (.unencodable e)

/-- The failure of metadata that have no document. -/
def marshalError (e : MetadataError) : StoreError :=
  if e.isNesting then .escaped (.metadata e)
  else .classified (Failure.internal "Failed to marshal metadata" (.metadata e))

/-- A failure that the database is made to report. -/
def injectedFailure (message : String) : Failure :=
  Failure.internal message (.database .operational)

/-- Where identities are kept: the dialect of the database and the bound on reads. -/
structure Repository where
  dialect : Text
  readTimeout : ReadTimeout

namespace Repository

/-- The tag of the identifiers of identities. -/
def tag : Text := "idt"

/-! ## Creating -/

/-- Inserts a copy of an identity under a new id, with the time of the clock as its time of
creation. -/
def create (d : Database) (fault : Option FaultPoint) (random : Octets) (now : DateTime)
    (i : Identity) : Outcome Identity :=
  let s := Session.start d
  match Metadata.encode (metadataValue i.metadata) with
  | .error e => .failed s (marshalError e)
  | .ok document =>
    match now.toUtc? with
    | none => .failed s (.escaped (.input .beyondCalendar))
    | some createdAt =>
      if callsLeft < (metadataValue i.metadata).copyCalls then .failed s (.escaped .uncopied)
      else
        let created := { i with id := Identifier.generate tag random, createdAt := some createdAt }
        if fault = some .commit then .classified s (injectedFailure "Failed to create identity")
        else
          match (s.add (created.toRow document)).commit with
          | .error e => .failed s (e.classify "Failed to create identity")
          | .ok s => ⟨.ok created, s.committed⟩

/-! ## Reading one identity -/

/-- How the cause of a failed read of one identity is classified. -/
def readError (c : Cause) : StoreError :=
  let retrieve := StoreError.classified (Failure.internal "Failed to retrieve identity" c)
  match c with
  | .metadata e =>
    if e.isNesting then .escaped c
    else .classified (Failure.internal "Failed to unmarshal metadata" c)
  | .timeout _ => .classified (Failure.internal "Timed out retrieving identity" c)
  | .dateKind => .escaped c
  | .input .beyondCalendar => .escaped c
  | .refused r => if r.sort = .value then retrieve else .escaped c
  | _ => retrieve

/-- The rows of an id, as a query fetches them. -/
def query (d : Database) (fault : Option FaultPoint) (id : Text) : Except Cause Table :=
  if fault = some .query then .error (.database .operational)
  else
    match d.table with
    | .error e => .error (.database e)
    | .ok t =>
      match EncodeError.of? id with
      | some e => .error (.unencodable e)
      | none => .ok (t.matching (textCell id))

/-- The identity of a row, which is to be read within the bound. -/
def readRow (r : Repository) (elapsed : Nat) (row : Row) : Except Cause Identity := do
  let record ← row.fetch
  let i ← record.toIdentity
  if ← (r.readTimeout.isExceededBy elapsed).mapError .refused then
    .error (.timeout r.readTimeout.exceededMessage)
  else .ok i

/-- The identity of an id, if the work before the commit succeeds. -/
def readId (r : Repository) (d : Database) (fault : Option FaultPoint) (elapsed : Nat) (id : Text) :
    Except StoreError Identity :=
  match r.readTimeout.statements r.dialect with
  | .error e => .error (readError (.refused e))
  | .ok _ =>
    match query d fault id with
    | .error c => .error (readError c)
    | .ok [] => .error (.classified (Failure.notFound id))
    | .ok (row :: _) => (r.readRow elapsed row).mapError readError

/-- How often a transaction was committed and rolled back. -/
structure Ending where
  commits : Nat
  rollbacks : Nat
deriving DecidableEq

/-- A read, and how its transaction ended, if one was begun. -/
structure Reading where
  result : Except StoreError Identity
  ending : Option Ending

/-- Reads the identity of an id in a transaction, `elapsed` microseconds having passed when it is
done. A failure rolls back, unless it escapes. Without a deadline no transaction is begun. -/
def getById (r : Repository) (d : Database) (fault : Option FaultPoint) (elapsed : Nat)
    (id : Text) : Reading :=
  match r.readTimeout.refusal? with
  | some e => ⟨.error (.escaped (.refused e)), none⟩
  | none =>
    if fault = some .begin then
      ⟨.error (.classified (injectedFailure "Failed to begin transaction")), none⟩
    else
      match r.readId d fault elapsed id with
      | .error (.escaped c) => ⟨.error (.escaped c), some ⟨0, 0⟩⟩
      | .error e => ⟨.error e, some ⟨0, 1⟩⟩
      | .ok i =>
        if fault = some .commit then
          ⟨.error (.classified (injectedFailure "Failed to commit transaction")), some ⟨1, 1⟩⟩
        else ⟨.ok i, some ⟨1, 0⟩⟩

/-! ## Reading all identities -/

/-- How the cause of a failed entry of a listing is classified. -/
def scanError (c : Cause) : StoreError :=
  match c with
  | .metadata e =>
    if e.isNesting then .escaped c
    else .classified (Failure.internal "Failed to unmarshal metadata" c)
  | .input (.invalid _) => .classified (Failure.internal "Failed to scan identity data" c)
  | _ => .escaped c

/-- Fetches rows in their order. -/
def fetchAll : List Row → Except Cause (List Record)
  | [] => .ok []
  | r :: rest =>
    match Row.fetch r with
    | .error c => .error c
    | .ok record => (fetchAll rest).map (record :: ·)

/-- Makes identities of records in their order. -/
def scanAll : List Record → Except Cause (List Identity)
  | [] => .ok []
  | r :: rest =>
    match Record.toIdentity r with
    | .error c => .error c
    | .ok i => (scanAll rest).map (i :: ·)

/-- All identities, those created last first. All rows are fetched before the first is looked at. -/
def getAll (d : Database) (fault : Option FaultPoint) : Except StoreError (List Identity) :=
  if fault = some .statement then
    .error (.classified (injectedFailure "Failed to retrieve identities"))
  else if fault = some .iteration then
    .error (.classified (injectedFailure "Error occurred while iterating over identities"))
  else
    match d.table with
    | .error e =>
      .error (.classified (Failure.internal "Failed to retrieve identities" (.database e)))
    | .ok t =>
      match fetchAll t.latestFirst with
      | .error c => .error (.escaped c)
      | .ok records => (scanAll records).mapError scanError

/-! ## Changing and deleting -/

/-- Executes a statement that must concern some row of an id, and commits it. -/
def modify (d : Database) (fault : Option FaultPoint) (message : String) (id : Text)
    (cells : List Cell) (f : Table → Except DatabaseFault (Table × Nat)) : Outcome Unit :=
  let s := Session.start d
  if fault = some .statement then .classified s (injectedFailure message)
  else if fault = some .rowCount then .classified s (injectedFailure "Failed to get rows affected")
  else
    match s.execute cells f with
    | .error e => .failed s (e.classify message)
    | .ok (s, count) =>
      if count = 0 then .classified s (Failure.notFound id)
      else if fault = some .commit then .classified s (injectedFailure message)
      else
        match s.commit with
        | .error e => .failed s (e.classify message)
        | .ok s => ⟨.ok (), s.committed⟩

/-- The changes of a patch in the form in which they are stored: metadata as a document. -/
def storedChanges : List (Column × Value) → Except MetadataError (List (Column × Value))
  | [] => .ok []
  | (.metadata, v) :: rest =>
    match Metadata.encode v with
    | .error e => .error e
    | .ok document => (storedChanges rest).map ((.metadata, .text document) :: ·)
  | (c, v) :: rest => (storedChanges rest).map ((c, v) :: ·)

/-- The cells that assignments bind; a value without a cell is bound as nothing. -/
def boundCells (s : UpdateStatement) : List (Column × Cell) :=
  s.assignments.map fun (c, v) => (c, (Cell.ofValue? v).getD .null)

/-- Executes an update statement on a table. -/
def runUpdate (s : UpdateStatement) (t : Table) : Except DatabaseFault (Table × Nat) :=
  t.assign ((Cell.ofValue? s.id).getD .null) (boundCells s)

/-- Changes the identity of a patch. -/
def update (d : Database) (fault : Option FaultPoint) (p : Patch) : Outcome Unit :=
  let s := Session.start d
  match storedChanges p.changes with
  | .error e => .failed s (marshalError e)
  | .ok [] => .classified s (Failure.badRequest "No fields provided for update")
  | .ok changes =>
    let statement : UpdateStatement := ⟨changes, .text p.id⟩
    modify d fault "Failed to update identity" p.id
      ((boundCells statement).map (·.2) ++ [textCell p.id]) (runUpdate statement)

/-- Changes an identity to another one, whose empty fields leave what is stored. -/
def updateWith (d : Database) (fault : Option FaultPoint) (i : Identity) : Outcome Unit :=
  match Patch.ofIdentity i with
  | .error f => .failed (Session.start d) (.escaped (.input f))
  | .ok p => update d fault p

/-- Deletes the identity of an id. -/
def delete (d : Database) (fault : Option FaultPoint) (id : Text) : Outcome Unit :=
  modify d fault "Failed to delete identity" id [textCell id] fun t => .ok (t.erase (textCell id))

end Repository

end Registry
