import CqlMapper.Journal.Blake3
import CqlMapper.MessagePack.Writer
import CqlMapper.Store.Error

/-!
The tables in which a journal keeps submissions. An envelope is written with all its statements in
one transaction: what has been written is only kept when every step up to the last succeeds.
-/

namespace CqlMapper

/-- A row for an envelope. -/
structure StoredEnvelope where
  id : Nat
  batchType : Option String
  level : Option String
  serialLevel : Option String
  size : Nat
  checksum : List UInt8

/-- A row for a statement, its values in MessagePack. -/
structure StoredStatement where
  envelope : Nat
  position : Nat
  query : String
  bound : List UInt8

/-- The rows of the two tables, in the order of their insertion. -/
structure Tables where
  envelopes : List StoredEnvelope
  /-- None once the table has been dropped. -/
  statements : Option (List StoredStatement)

/-- Where the writing of an envelope can fail. -/
inductive AppendStep where
  | checksum | lock | transaction | envelope
  | encoding (position : Nat) | statement (position : Nat)
  | commit

/-- The steps that fail, with their errors. -/
abbrev Faults := AppendStep → Option StoreError

def AppendStep.pass (step : AppendStep) (faults : Faults) : Except StoreError Unit :=
  match faults step with
  | some error => .error error
  | none => .ok ()

def contentBytes (statements : List (String × List CqlValue)) : List UInt8 :=
  statements.flatMap fun statement =>
    Text.utf8Bytes statement.1 ++ MessagePack.write statement.2

def checksumOf (statements : List BoundStatement) : List UInt8 :=
  Blake3.hash (contentBytes (statements.map fun statement => (statement.query, statement.values)))

namespace Submission

def batchType? : Submission → Option BatchType
  | .single _ => none
  | .batch envelope => some envelope.type

def level? : Submission → Option Level
  | .single statement => statement.level
  | .batch envelope => some envelope.level

def serialLevel? : Submission → Option Level
  | .single statement => statement.serialLevel
  | .batch envelope => envelope.serialLevel

end Submission

def StoredEnvelope.ofSubmission (id : Nat) (submission : Submission) : StoredEnvelope where
  id := id
  batchType := submission.batchType?.map BatchType.name
  level := submission.level?.map Level.name
  serialLevel := submission.serialLevel?.map Level.name
  size := submission.statements.length
  checksum := checksumOf submission.statements

namespace StoredStatement

def ofStatement (envelope position : Nat) (statement : BoundStatement) : StoredStatement :=
  ⟨envelope, position, statement.query, MessagePack.write statement.values⟩

def size (row : StoredStatement) : Nat :=
  row.query.utf8ByteSize + row.bound.length

/-- No row holds more bytes than these. -/
def greatestSize : Nat := 1000000000

end StoredStatement

namespace Tables

def empty : Tables := ⟨[], some []⟩

def statementRows (tables : Tables) : List StoredStatement :=
  tables.statements.getD []

/-- An identifier that no row has. -/
def freshId (tables : Tables) : Nat :=
  (tables.envelopes.map (·.id) ++ tables.statementRows.map (·.envelope)).foldr max 0 + 1

def hasEnvelope (tables : Tables) (id : Nat) : Bool :=
  tables.envelopes.any (·.id == id)

def hasStatement (tables : Tables) (envelope position : Nat) : Bool :=
  tables.statementRows.any fun row => row.envelope == envelope && row.position == position

/-- The identifiers of envelopes are unique. -/
def insertEnvelope (tables : Tables) (row : StoredEnvelope) : Except StoreError Tables :=
  if tables.hasEnvelope row.id then .error .database
  else .ok { tables with envelopes := tables.envelopes ++ [row] }

/-- A statement belongs to an envelope that is there, and has a position of its own in it. -/
def insertStatement (tables : Tables) (row : StoredStatement) : Except StoreError Tables :=
  match tables.statements with
  | none => .error .database
  | some rows =>
    if tables.hasEnvelope row.envelope ∧ ¬ tables.hasStatement row.envelope row.position ∧
        row.size ≤ StoredStatement.greatestSize then
      .ok { tables with statements := some (rows ++ [row]) }
    else .error .database

/-- The statements of an envelope by their positions. -/
def select (tables : Tables) (envelope : Nat) : Except StoreError (List StoredStatement) :=
  match tables.statements with
  | none => .error .database
  | some rows =>
    let own := rows.filter fun row => row.envelope == envelope
    .ok (own.mergeSort fun a b => a.position ≤ b.position)

def appendStatements (faults : Faults) (envelope : Nat) :
    Nat → List BoundStatement → Tables → Except StoreError Tables
  | _, [], tables => .ok tables
  | position, statement :: rest, tables => do
    (AppendStep.encoding position).pass faults
    (AppendStep.statement position).pass faults
    let tables ← tables.insertStatement (.ofStatement envelope position statement)
    appendStatements faults envelope (position + 1) rest tables

/-- The tables as a transaction leaves them that writes an envelope with its statements. -/
def append (tables : Tables) (faults : Faults) (submission : Submission) :
    Except StoreError Tables := do
  AppendStep.checksum.pass faults
  AppendStep.lock.pass faults
  AppendStep.transaction.pass faults
  AppendStep.envelope.pass faults
  let id := tables.freshId
  let opened ← tables.insertEnvelope (.ofSubmission id submission)
  let filled ← opened.appendStatements faults id 0 submission.statements
  AppendStep.commit.pass faults
  return filled

end Tables

end CqlMapper
