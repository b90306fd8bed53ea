import CqlMapper.Codec.Basic

/-! Properties of an entity: how they are declared, and what they become in a schema. -/

namespace CqlMapper

inductive ClusteringOrder where
  | asc | desc
  deriving DecidableEq, Inhabited

def ClusteringOrder.shown : ClusteringOrder → String
  | .asc => "Asc"
  | .desc => "Desc"

inductive PropertyRole where
  | plain
  | counter
  | partitionKey
  | clusteringKey (order : ClusteringOrder)
  deriving DecidableEq, Inhabited

def PropertyRole.isKey : PropertyRole → Bool
  | .partitionKey | .clusteringKey _ => true
  | _ => false

inductive KeyPart where
  | partition
  | clustering (order : ClusteringOrder)
  deriving DecidableEq

structure Declaration where
  name : String
  type : FieldType
  key : Option KeyPart
  /-- The name of the property when absent. -/
  column : Option String
  hints : CodecHints
  writeLevel : Option Level

namespace Declaration

def property (name : String) (type : FieldType) : Declaration :=
  ⟨name, type, none, none, CodecHints.standard, none⟩

def partitionKey (name : String) (type : FieldType) : Declaration :=
  { property name type with key := some .partition }

def clusteringKey (name : String) (type : FieldType) (order : ClusteringOrder) : Declaration :=
  { property name type with key := some (.clustering order) }

def counter (name : String) : Declaration :=
  property name .counter

def columnName (declaration : Declaration) : String :=
  declaration.column.getD declaration.name

/-- A property of counter type that is no key component is a counter. -/
def role (declaration : Declaration) : PropertyRole :=
  match declaration.key with
  | some .partition => .partitionKey
  | some (.clustering order) => .clusteringKey order
  | none => if declaration.type = .counter then .counter else .plain

end Declaration

structure Property where
  name : String
  column : String
  role : PropertyRole
  codec : Codec
  writeLevel : Option Level

namespace Property

def type (property : Property) : FieldType :=
  property.codec.source

def isKey (property : Property) : Bool :=
  property.role.isKey

def isCounter (property : Property) : Bool :=
  property.role == .counter

def isPlain (property : Property) : Bool :=
  property.role == .plain

def columnType (property : Property) : CqlType :=
  if property.isCounter then .counter else property.codec.target

def encode (property : Property) (value : FieldValue) : Except MappingError CqlValue :=
  property.codec.encode value

def decode (property : Property) (value : CqlValue) : Except MappingError FieldValue :=
  property.codec.decode value

end Property

end CqlMapper
