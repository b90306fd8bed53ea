import CqlMapper.Journal.Tables
import CqlMapper.MessagePack.Reader

/-!
A journal of what the store has executed. Every successful submission becomes one envelope with its
statements and a checksum, or is counted as missed; reading the journal verifies the checksums.
-/

namespace CqlMapper

structure JournalFile where
  tables : Tables
  schemaVersions : List Int
  /-- What fails in each coming append; nothing does after the list has ended. -/
  faults : List Faults

/-- One journaled submission. Single statements have no batch type. -/
structure JournalEntry where
  id : Nat
  batchType : Option BatchType
  level : Option Level
  serialLevel : Option Level
  checksum : List UInt8
  statements : List BoundStatement

namespace StoredEnvelope

def readStatement (stored : StoredStatement) : Except StoreError BoundStatement :=
  match MessagePack.read? stored.bound with
  | some values => .ok (.plain stored.query values)
  | none => .error .undecodable

def readLevel (name : Option String) : Except StoreError (Option Level) :=
  match name with
  | none => .ok none
  | some name =>
    match Level.parse name with
    | .ok level => .ok (some level)
    | .error error => .error (.mapping error)

def readBatchType (name : Option String) : Except StoreError (Option BatchType) :=
  match name with
  | none => .ok none
  | some name => (BatchType.parse name).map some

/-- Statements are decoded first, then the checksum is compared, then the names are read. -/
def read (stored : StoredEnvelope) (tables : Tables) : Except StoreError JournalEntry := do
  let rows ← tables.select stored.id
  let statements ← rows.mapM readStatement
  if checksumOf statements = stored.checksum then
    let batchType ← readBatchType stored.batchType
    let level ← readLevel stored.level
    let serialLevel ← readLevel stored.serialLevel
    return ⟨stored.id, batchType, level, serialLevel, stored.checksum, statements⟩
  else .error (.checksumMismatch stored.id)

end StoredEnvelope

namespace JournalFile

def supportedVersion : Int := 1

def empty : JournalFile := ⟨Tables.empty, [supportedVersion], []⟩

def count (file : JournalFile) : Nat :=
  file.tables.envelopes.length

/-- A failed append leaves the tables as they were. -/
def append (file : JournalFile) (submission : Submission) : Except StoreError Unit × JournalFile :=
  let coming := { file with faults := file.faults.drop 1 }
  match file.tables.append (file.faults.headD fun _ => none) submission with
  | .ok tables => (.ok (), { coming with tables := tables })
  | .error error => (.error error, coming)

def read (file : JournalFile) : Except StoreError (List JournalEntry) :=
  file.tables.envelopes.mapM (·.read file.tables)

def greatestVersion (file : JournalFile) : Int :=
  file.schemaVersions.foldl max supportedVersion

def greatestReadable : Int := Int32.maxValue.toInt

/-- What opening an existing file gives; a missing table of statements is made anew. -/
def reopen (file : JournalFile) : Except StoreError Unit × JournalFile :=
  let version := file.greatestVersion
  let result :=
    if greatestReadable < version then .error .database
    else if supportedVersion < version then .error (.newerSchema version supportedVersion)
    else .ok ()
  (result,
    { file with tables := { file.tables with statements := some file.tables.statementRows } })

def dropStatements (file : JournalFile) : JournalFile :=
  { file with tables := { file.tables with statements := none } }

def addVersion (file : JournalFile) (version : Int) : JournalFile :=
  { file with schemaVersions := file.schemaVersions ++ [version] }

def editEnvelope (file : JournalFile) (index : Nat) (edit : StoredEnvelope → StoredEnvelope) :
    JournalFile :=
  { file with tables :=
      { file.tables with envelopes := file.tables.envelopes.modify index edit } }

def hasEnvelope (file : JournalFile) (index : Nat) : Bool :=
  index < file.tables.envelopes.length

def hasStatement (file : JournalFile) (index position : Nat) : Bool :=
  (file.tables.envelopes[index]?.map fun envelope =>
    file.tables.hasStatement envelope.id position).getD false

/-- Changes the row of the statement at a position of an envelope, or removes it. -/
def changeStatement (file : JournalFile) (index position : Nat)
    (change : StoredStatement → Option StoredStatement) : JournalFile :=
  match file.tables.envelopes[index]? with
  | none => file
  | some envelope =>
    let changed (row : StoredStatement) : Option StoredStatement :=
      if row.envelope = envelope.id ∧ row.position = position then change row else some row
    { file with tables :=
        { file.tables with statements := file.tables.statements.map (·.filterMap changed) } }

def editStatement (file : JournalFile) (index position : Nat)
    (edit : StoredStatement → StoredStatement) : JournalFile :=
  file.changeStatement index position fun row => some (edit row)

def deleteStatement (file : JournalFile) (index position : Nat) : JournalFile :=
  file.changeStatement index position fun _ => none

end JournalFile

/-- An open journal with the count of executed submissions that it does not hold. -/
structure Journal where
  file : JournalFile
  missed : Nat

namespace Journal

def empty : Journal := ⟨JournalFile.empty, 0⟩

/-- Keeps an executed submission, or counts it as missed. -/
def record (journal : Journal) (submission : Submission) : Journal :=
  match journal.file.append submission with
  | (.ok (), file) => { journal with file := file }
  | (.error _, file) => ⟨file, journal.missed + 1⟩

def shown (journal : Journal) : String :=
  Text.shownPart "JournalStore" [("missed", Text.shownNat journal.missed)]

end Journal

end CqlMapper
