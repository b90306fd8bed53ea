import CqlMapper.Codec.FieldType
import CqlMapper.Consistency.Level
import CqlMapper.CqlType
import CqlMapper.Text.Number

/-! Why a value, a schema or a record operation is refused. -/

namespace CqlMapper

inductive SchemaFault where
  | duplicateProperty (name : String)
  | duplicateColumn (column : String)
  | unfitKey
  | nestedCollection
  | counterElement
  | emptyEnum (name : String)
  | missingPartitionKey
  | registeredTwice
  deriving DecidableEq

def SchemaFault.reason : SchemaFault → String
  | .duplicateProperty name => "duplicate property '" ++ name ++ "'"
  | .duplicateColumn column => "duplicate column '" ++ column ++ "'"
  | .unfitKey => "primary key components must be simple, non-counter values"
  | .nestedCollection => "nested collections are not supported"
  | .counterElement => "counters cannot be collection elements"
  | .emptyEnum name => "enum " ++ name ++ " declares no constants"
  | .missingPartitionKey => "missing partition key"
  | .registeredTwice => "entity registered twice"

inductive TranscodingFault where
  | expected (type : CqlType)
  | unexpectedKind (kind : String)
  | unknownConstant
  | notOneByte
  | ordinalOutOfRange
  | unexpectedWire
  | shapeMismatch (declared : FieldType)
  | misdeclaredColumn (column : String) (declared : CqlType)
  deriving DecidableEq

def TranscodingFault.reason : TranscodingFault → String
  | .expected type => "expected a " ++ type.name ++ " value"
  | .unexpectedKind kind => "unexpected " ++ kind ++ " value"
  | .unknownConstant => "unknown enum constant"
  | .notOneByte => "expected exactly one byte"
  | .ordinalOutOfRange => "ordinal out of range"
  | .unexpectedWire => "unexpected wire value"
  | .shapeMismatch declared => "does not match declared type " ++ declared.shown
  | .misdeclaredColumn column declared =>
    "column '" ++ column ++ "' is declared " ++ declared.name

inductive MappingError where
  /-- A mapper of structured values refuses a value or a text. -/
  | unmappable (reason : String)
  | unknownLevel (name : String)
  | schema (owner : String) (fault : SchemaFault)
  | transcoding (codec : String) (value : String) (fault : TranscodingFault)
  | unknownProperty (entity property : String)
  | wrongShape (property found expected : String)
  | outOfBounds (property : String) (index : Nat)
  | invalidOperation (reason : String)
  deriving DecidableEq

def MappingError.message : MappingError → String
  | .unmappable reason => "serialization error: " ++ reason
  | .unknownLevel name => "serialization error: unknown consistency level: " ++ name
  | .schema owner fault => "schema error for " ++ owner ++ ": " ++ fault.reason
  | .transcoding codec value fault =>
    "cannot transcode " ++ value ++ " with " ++ codec ++ " codec: " ++ fault.reason
  | .unknownProperty entity property => "unknown property '" ++ property ++ "' on " ++ entity
  | .wrongShape property found expected =>
    "invalid operation: '" ++ property ++ "' holds a " ++ found ++ ", not a " ++ expected
  | .outOfBounds property index =>
    "invalid operation: index " ++ Text.shownNat index ++ " out of bounds for list '" ++
      property ++ "'"
  | .invalidOperation reason => "invalid operation: " ++ reason

def Level.parse (name : String) : Except MappingError Level :=
  match Level.ofName? name with
  | some level => .ok level
  | none => .error (.unknownLevel name)

end CqlMapper
