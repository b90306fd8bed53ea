import CqlMapper.Config
import CqlMapper.Interceptor
import CqlMapper.Schema.Property

/-!
Schemas of entities. A schema is built from declarations whose property and column names are
distinct, with at least one partition key and a codec for every property.
-/

namespace CqlMapper

structure EntityDeclaration where
  name : String
  table : String
  declarations : List Declaration
  counterTable : Option String
  readLevel : Option Level
  writeLevel : Option Level
  insertStrategy : Option InsertStrategy
  interceptors : List Interceptor
  mapper : ObjectMapper

def EntityDeclaration.simple (name table : String) (declarations : List Declaration) :
    EntityDeclaration :=
  ⟨name, table, declarations, none, none, none, none, [], ObjectMapper.json⟩

structure EntitySchema where
  name : String
  table : String
  /-- In declaration order. -/
  properties : List Property
  /-- The name chosen for a companion table of counters. -/
  counterTableName : Option String
  readLevel : Option Level
  writeLevel : Option Level
  insertStrategy : Option InsertStrategy
  interceptors : List Interceptor

namespace EntitySchema

def property? (schema : EntitySchema) (name : String) : Option Property :=
  schema.properties.find? (·.name == name)

def property (schema : EntitySchema) (name : String) : Except MappingError Property :=
  match schema.property? name with
  | some property => .ok property
  | none => .error (.unknownProperty schema.name name)

def propertyByColumn? (schema : EntitySchema) (column : String) : Option Property :=
  schema.properties.find? (·.column == column)

def partitionKeys (schema : EntitySchema) : List Property :=
  schema.properties.filter fun property => property.role == .partitionKey

def clusteringKeys (schema : EntitySchema) : List (Property × ClusteringOrder) :=
  schema.properties.filterMap fun property =>
    match property.role with
    | .clusteringKey order => some (property, order)
    | _ => none

/-- Partition components before clustering components, each in declaration order. -/
def primaryKey (schema : EntitySchema) : List Property :=
  schema.partitionKeys ++ schema.clusteringKeys.map (·.1)

def nonKeys (schema : EntitySchema) : List Property :=
  schema.properties.filter fun property => !property.isKey

def counters (schema : EntitySchema) : List Property :=
  schema.properties.filter fun property => property.isCounter

def plains (schema : EntitySchema) : List Property :=
  schema.properties.filter fun property => property.isPlain

def isClusteredCounter (schema : EntitySchema) : Bool :=
  !schema.nonKeys.isEmpty && schema.nonKeys.all (·.isCounter)

/-- The companion table that holds the counters of an entity with other properties as well. -/
def counterTable? (schema : EntitySchema) : Option String :=
  if !schema.counters.isEmpty && !schema.isClusteredCounter then
    some (schema.counterTableName.getD (schema.table ++ "_counters"))
  else none

def interceptsOn (schema : EntitySchema) (event : Event) : Bool :=
  schema.interceptors.any fun interceptor => event ∈ interceptor.events

def shown (schema : EntitySchema) : String :=
  Text.shownRecord "EntityMeta" [
    ("entity_name", Text.quoted schema.name),
    ("table_name", Text.quoted schema.table),
    ("partition_keys",
      Text.shownList (schema.partitionKeys.map fun property => Text.quoted property.name)),
    ("clustering_keys", Text.shownList (schema.clusteringKeys.map fun (property, order) =>
      Text.shownPair (Text.quoted property.name) order.shown)),
    ("properties", Text.shownList (schema.properties.map fun property =>
      Text.quoted property.name)),
    ("clustered_counter", Text.shownBool schema.isClusteredCounter),
    ("interceptors", Text.shownNat schema.interceptors.length)]

end EntitySchema

namespace EntityDeclaration

/-- Key components are neither collections nor counters. -/
def fitsKey (declaration : Declaration) : Bool :=
  declaration.key.isNone || !(declaration.type.isCollection || declaration.type == .counter)

def extend (entity : EntityDeclaration) (built : List Property) (declaration : Declaration) :
    Except MappingError (List Property) :=
  let owner := entity.name ++ "." ++ declaration.name
  if built.any (·.name == declaration.name) then
    .error (.schema entity.name (.duplicateProperty declaration.name))
  else if built.any (·.column == declaration.columnName) then
    .error (.schema entity.name (.duplicateColumn declaration.columnName))
  else if !fitsKey declaration then .error (.schema owner .unfitKey)
  else do
    let codec ← Codec.forType entity.mapper owner declaration.type declaration.hints
    let property : Property := ⟨declaration.name, declaration.columnName, declaration.role, codec,
      declaration.writeLevel⟩
    return built ++ [property]

def build (entity : EntityDeclaration) : Except MappingError EntitySchema := do
  let properties ← entity.declarations.foldlM entity.extend []
  if properties.any (fun property => property.role == .partitionKey) then
    return ⟨entity.name, entity.table, properties, entity.counterTable, entity.readLevel,
      entity.writeLevel, entity.insertStrategy, entity.interceptors⟩
  else .error (.schema entity.name .missingPartitionKey)

end EntityDeclaration

end CqlMapper
