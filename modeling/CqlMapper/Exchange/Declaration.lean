import CqlMapper.Codec.Tagged
import CqlMapper.Exchange.Types
import CqlMapper.FieldValue.Serial
import CqlMapper.Schema.Entity

/-! Declarations of entities read from their JSON form. -/

namespace CqlMapper

def Level.read? (json : Json) : Option Level :=
  json.string?.bind Level.ofName?

def Event.read? : Json → Option Event :=
  Json.constant? Event.everyEvent Event.shown

def InsertStrategy.read? (json : Json) : Option InsertStrategy :=
  json.string?.bind InsertStrategy.ofName?

def EnumEncoding.read? : Json → Option EnumEncoding
  | .string "Name" => some .name
  | .string "Ordinal" => some .ordinal
  | _ => none

def ClusteringOrder.read? : Json → Option ClusteringOrder :=
  Json.constant? [.asc, .desc] ClusteringOrder.shown

def CodecHints.read? (json : Json) : Option CodecHints := do
  let encoding ← json.optional? "enum_encoding" EnumEncoding.read?
  let keyEncoding ← json.optional? "key_enum_encoding" EnumEncoding.read?
  let timeUuid ← json.flag? "time_uuid"
  return ⟨encoding, keyEncoding, timeUuid⟩

/-- The JSON mapper unless another is named. -/
def ObjectMapper.readMember? (json : Json) : Option ObjectMapper :=
  match json.member? "mapper" with
  | none => some .json
  | some (.string "tagged") => some .tagged
  | some _ => none

def Reaction.read? : Json → Option Reaction
  | .array [.string "set", .string property, value] =>
    (FieldValue.read? value).map (.assign property)
  | .array [.string "bump", .string property] => some (.bump property)
  | .array [.string "copy", .string source, .string target] => some (.copy source target)
  | _ => none

def Interceptor.read? (json : Json) : Option Interceptor := do
  let label ← json.required? "label" Json.string?
  let events ← json.listMember? "events" Event.read?
  let reactions ← json.listMember? "do" Reaction.read?
  return ⟨label, events, Reaction.run reactions⟩

namespace Declaration

def readFull? (json : Json) (name : String) (type : FieldType) : Option Declaration := do
  let column ← json.optional? "column" Json.string?
  let hints ← CodecHints.read? json
  let writeLevel ← json.optional? "write_consistency" Level.read?
  return ⟨name, type, none, column, hints, writeLevel⟩

def read? (json : Json) : Option Declaration := do
  let name ← json.required? "name" Json.string?
  let type := json.required? "type" FieldType.read?
  match ← json.required? "via" Json.string? with
  | "partition_key" => type.map (.partitionKey name)
  | "clustering_key" =>
    let order ← json.optional? "order" ClusteringOrder.read?
    type.map fun type => .clusteringKey name type (order.getD .asc)
  | "property" => type.map (.property name)
  | "counter" => some (.counter name)
  | "declare" => type.bind (readFull? json name)
  | _ => none

end Declaration

/-- Levels of the entity only count when both are given. -/
def EntityDeclaration.read? (json : Json) : Option EntityDeclaration := do
  let name ← json.required? "name" Json.string?
  let table ← json.required? "table" Json.string?
  let declarations ← json.listMember? "props" Declaration.read?
  let counterTable ← json.optional? "counter_table" Json.string?
  let readLevel ← json.optional? "read" Level.read?
  let writeLevel ← json.optional? "write" Level.read?
  let strategy ← json.optional? "insert_strategy" InsertStrategy.read?
  let interceptors ← json.listMember? "interceptors" Interceptor.read?
  let mapper ← ObjectMapper.readMember? json
  return ⟨name, table, declarations, counterTable, readLevel.filter fun _ => writeLevel.isSome,
    writeLevel.filter fun _ => readLevel.isSome, strategy, interceptors, mapper⟩

end CqlMapper
