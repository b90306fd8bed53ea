import CqlMapper.Exchange.Statement
import CqlMapper.Schema.Entity
import CqlMapper.Session.Flush

/-! Descriptions of settings, schemas and flush contexts as JSON. -/

namespace CqlMapper

def Config.toJson (config : Config) : Json :=
  let levels (entries : Keyed Level) : Json :=
    .object (entries.map fun entry => (entry.1, entry.2.toJson))
  .object [
    ("default_read_consistency", config.defaultRead.toJson),
    ("default_write_consistency", config.defaultWrite.toJson),
    ("default_serial_consistency", .ofOption Level.toJson config.defaultSerial),
    ("read_consistency_map", levels config.readLevels),
    ("write_consistency_map", levels config.writeLevels),
    ("insert_strategy", .string config.insertStrategy.shown)]

def PropertyRole.shown : PropertyRole → String
  | .plain => "Plain"
  | .counter => "Counter"
  | .partitionKey => "PartitionKey"
  | .clusteringKey _ => "ClusteringKey"

def Property.toJson (property : Property) : Json :=
  .object [
    ("name", .string property.name),
    ("column", .string property.column),
    ("role", .string property.role.shown),
    ("is_key", .bool property.isKey),
    ("is_counter", .bool property.isCounter),
    ("type", property.type.toJson),
    ("column_type", .string property.columnType.name),
    ("codec", .string property.codec.element.name),
    ("write_consistency", .ofOption Level.toJson property.writeLevel)]

namespace EntitySchema

def description (schema : EntitySchema) : List (String × Json) :=
  let names (properties : List Property) : Json := .ofStrings (properties.map (·.name))
  [("entity", .string schema.name),
    ("table", .string schema.table),
    ("counter_table", .ofOption .string schema.counterTable?),
    ("clustered_counter", .bool schema.isClusteredCounter),
    ("has_counters", .bool (!schema.counters.isEmpty)),
    ("read", .ofOption Level.toJson schema.readLevel),
    ("write", .ofOption Level.toJson schema.writeLevel),
    ("insert_strategy", .ofOption (fun strategy => .string strategy.shown) schema.insertStrategy),
    ("properties", .ofList Property.toJson schema.properties),
    ("partition_keys", names schema.partitionKeys),
    ("clustering_keys", .ofPairs (fun property => .string property.name)
      (fun order => .string order.shown) schema.clusteringKeys),
    ("primary_key", names schema.primaryKey),
    ("primary_key_len", .ofNat schema.primaryKey.length),
    ("non_key", names schema.nonKeys),
    ("counters", names schema.counters),
    ("intercepts", .ofStrings ((Event.everyEvent.filter fun event =>
      schema.interceptsOn event).map Event.shown)),
    ("debug", .string schema.shown)]

end EntitySchema

def FlushContext.toJson (context : FlushContext) : Json :=
  .object [
    ("mode", .string context.mode.shown),
    ("type", .string context.batchType.name),
    ("is_batch", .bool context.isBatch),
    ("consistency", .ofOption Level.toJson context.level),
    ("serial", .ofOption Level.toJson context.serialLevel),
    ("pending", .ofNat context.pending),
    ("events", .ofNat context.callbacks.length),
    ("debug", .string context.shown)]

end CqlMapper
