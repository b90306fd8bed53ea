import CqlMapper.Change.Basic
import CqlMapper.Conditional.Basic
import CqlMapper.Store.Error

/-! Why a write is refused or fails. -/

namespace CqlMapper

inductive UsageFault where
  | unknownEntity (name : String)
  | keyUpdate (property : String)
  | missingKey (property : String)
  | keyCount (entity : String) (expected given : Nat)
  | changeMismatch (kind : ChangeKind) (property : String) (declared : FieldType)
  | notIndexed (kind : ChangeKind)
  | counterChange (property : String) (kind : ChangeKind)
  | excessiveTtl (seconds : Nat)
  | unknownConditionColumn (column entity : String)
  | idleListener
  | notSerial (level : Level)
  | conditionsOnInsert
  | ifNotExistsOnUpdate
  | conditionalRemove
  | counterExpiry (entity : String)
  | conditionalCounter (entity : String)
  | batchLevel (level : Level)
  | batchSerialLevel (level : Level)
  | batchListener
  | notAWrite (query : String)
  deriving DecidableEq

namespace UsageFault

def reason : UsageFault → String
  | .unknownEntity name => "unknown entity '" ++ name ++ "'"
  | .keyUpdate property => "primary key component '" ++ property ++ "' cannot be updated"
  | .missingKey property => "primary key component '" ++ property ++ "' has no value"
  | .keyCount entity expected given =>
    entity ++ " expects " ++ Text.shownNat expected ++ " primary key components, got " ++
      Text.shownNat given
  | .changeMismatch kind property declared =>
    kind.shown ++ " does not apply to '" ++ property ++ "' of type " ++ declared.shown
  | .notIndexed kind => kind.shown ++ " is not an index-based list operation"
  | .counterChange property kind =>
    "counter '" ++ property ++ "' only supports increments, got " ++ kind.shown
  | .excessiveTtl seconds => "TTL of " ++ Text.shownNat seconds ++ " seconds does not fit a CQL int"
  | .unknownConditionColumn column entity =>
    "CAS condition on unknown column '" ++ column ++ "' of " ++ entity
  | .idleListener => "a CAS result listener requires IF NOT EXISTS or a CAS condition"
  | .notSerial level => level.name ++ " is not a serial consistency level"
  | .conditionsOnInsert => "insert accepts IF NOT EXISTS only, not CAS conditions"
  | .ifNotExistsOnUpdate => "IF NOT EXISTS applies to insert only"
  | .conditionalRemove => "remove accepts neither CAS conditions nor a TTL"
  | .counterExpiry entity => "counter entity " ++ entity ++ " accepts neither TTL nor timestamp"
  | .conditionalCounter entity =>
    "counter entity " ++ entity ++ " cannot be written conditionally"
  | .batchLevel level =>
    "a batch runs at one consistency level; " ++ level.name ++ " was requested per operation, " ++
      "set it when starting the batch instead"
  | .batchSerialLevel level =>
    "a batch runs at one serial consistency level; " ++ level.name ++ " was requested per " ++
      "operation, set it when starting the batch instead"
  | .batchListener => "CAS result listeners are not supported in a batch"
  | .notAWrite query => "only INSERT, UPDATE or DELETE can join a batch: " ++ query

end UsageFault

inductive WriteError where
  | store (error : StoreError)
  | mapping (error : MappingError)
  | usage (fault : UsageFault)
  | conditionFailed (rejection : Rejection)
  | lockPoisoned
  | taskDropped

def WriteError.message : WriteError → String
  | .store error => "storage error: " ++ error.message
  | .mapping error => "core error: " ++ error.message
  | .usage fault => "usage error: " ++ fault.reason
  | .conditionFailed rejection => rejection.message
  | .lockPoisoned => "entity lock poisoned"
  | .taskDropped => "worker pool dropped the write before it completed"

/-- Takes a rejection for an error. -/
def Outcome.raised : Outcome → Except WriteError Unit
  | .applied => .ok ()
  | .rejected rejection => .error (.conditionFailed rejection)

end CqlMapper
