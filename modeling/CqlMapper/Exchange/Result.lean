import CqlMapper.Conditional.Basic
import CqlMapper.CqlValue.Serial
import CqlMapper.Exchange.Declaration
import CqlMapper.Store.Error
import CqlMapper.Store.Result

/-! What a store answers, in its JSON form. -/

namespace CqlMapper

def ColumnDefinition.read? (json : Json) : Option ColumnDefinition := do
  let name ← json.required? "name" Json.string?
  let type ← json.required? "type" CqlType.read?
  return ⟨name, type⟩

namespace Row

def readCell? (json : Json) : Option (ColumnDefinition × CqlValue) := do
  let column ← ColumnDefinition.read? json
  let value ← json.required? "value" CqlValue.read?
  return (column, value)

def withCells (row : Row) (cells : List (ColumnDefinition × CqlValue)) : Row :=
  ⟨row.columns ++ cells.map (·.1), row.values ++ cells.map (·.2)⟩

def read? (json : Json) : Option Row := do
  let isApplied ← json.optional? "applied" Json.bool?
  let cells ← json.listMember? "columns" readCell?
  let columns ← json.listMember? "extra_columns" ColumnDefinition.read?
  let values ← json.listMember? "extra_values" CqlValue.read?
  let row := ((isApplied.map applied).getD empty).withCells cells
  return ⟨row.columns ++ columns, row.values ++ values⟩

end Row

def Uuid.readJson? (json : Json) : Option Uuid :=
  json.string?.bind Uuid.read?

def TraceEvent.read? (json : Json) : Option TraceEvent := do
  let description ← json.required? "description" Json.string?
  let source ← json.required? "source" Json.string?
  let elapsed ← json.required? "elapsed" Json.int64?
  let thread ← json.required? "thread" Json.string?
  return ⟨description, source, elapsed, thread⟩

def QueryTrace.read? (json : Json) : Option QueryTrace := do
  let id ← json.required? "id" Uuid.readJson?
  let events ← json.listMember? "events" TraceEvent.read?
  return ⟨id, events⟩

def ExecutionInfo.read? (json : Json) : Option ExecutionInfo := do
  let host ← json.required? "host" Json.string?
  let achieved ← json.optional? "achieved" Level.read?
  let trace ← json.optional? "trace" QueryTrace.read?
  return ⟨host, achieved, trace⟩

def ResultSet.read? (json : Json) : Option ResultSet := do
  let rows ← json.listMember? "rows" Row.read?
  let info ← json.listMember? "info" ExecutionInfo.read?
  return ⟨rows, info⟩

def StoreError.read? (json : Json) : Option StoreError := do
  let message ← json.optional? "message" Json.string?
  let text := message.getD ""
  let level ← json.optional? "consistency" Level.read?
  let level := level.getD .one
  let count (key : String) := (json.optional? key Json.natural?).map fun given => given.getD 0
  match ← json.required? "kind" Json.string? with
  | "Timeout" => return .timeout level (← count "received") (← count "required")
  | "Unavailable" => return .unavailable level (← count "alive") (← count "required")
  | "WriteFailure" => return .writeFailure text
  | "Serialization" => return .unreadable text
  | "LockPoisoned" => return .lockPoisoned
  | "Core" => return .mapping (.invalidOperation text)
  | _ => none

def Rejection.toJson (rejection : Rejection) : Json :=
  .object [
    ("operation", .string rejection.kind.shown),
    ("current", .object (rejection.current.map fun entry => (entry.1, entry.2.exactJson)))]

end CqlMapper
