import CqlMapper.Record
import CqlMapper.Schema.Entity
import CqlMapper.Statement.Basic
import CqlMapper.WriteError
import CqlMapper.WriteOptions

/-!
Generation of write statements. Whole values of plain properties share one UPDATE, every other
change has a statement of its own, and counters are written last, in their companion table if there
is one.
-/

namespace CqlMapper

structure Subject where
  value? : Fields
  changes : List PropertyChange

def Record.subject (record : Record) : Subject :=
  ⟨record.values, record.dirtyChanges⟩

def WriteError.ofMapping {α : Type} (result : Except MappingError α) : Except WriteError α :=
  match result with
  | .ok value => .ok value
  | .error error => .error (.mapping error)

namespace EntitySchema

def encodeKey (property : Property) (value : Option FieldValue) : Except WriteError CqlValue :=
  match value with
  | some .null | none => .error (.usage (.missingKey property.name))
  | some value => WriteError.ofMapping (property.encode value)

def keyOf (schema : EntitySchema) (fields : Fields) : Except WriteError (List CqlValue) :=
  schema.primaryKey.mapM fun property => encodeKey property (fields property.name)

/-- The encoded primary key from values in primary-key order. -/
def keyFrom (schema : EntitySchema) (values : List FieldValue) :
    Except WriteError (List CqlValue) :=
  if values.length = schema.primaryKey.length then
    (schema.primaryKey.zip values).mapM fun entry => encodeKey entry.1 (some entry.2)
  else .error (.usage (.keyCount schema.name schema.primaryKey.length values.length))

def keyClause (schema : EntitySchema) (key : List CqlValue) : KeyClause :=
  ⟨schema.primaryKey.map (·.column), key⟩

def keyColumns (schema : EntitySchema) (key : List CqlValue) : List (String × CqlValue) :=
  (schema.primaryKey.map (·.column)).zip key

def usingOf (options : WriteOptions) : Except WriteError UsingClause :=
  match options.ttl with
  | none => .ok ⟨none, options.timestamp⟩
  | some seconds =>
    if seconds.toNat ≤ Int32.maxValue.toInt then
      .ok ⟨some (Int32.ofNat seconds.toNat), options.timestamp⟩
    else .error (.usage (.excessiveTtl seconds.toNat))

/-- A condition names a column, or else a property. -/
def conditionProperty (schema : EntitySchema) (name : String) : Except WriteError Property :=
  match schema.propertyByColumn? name, schema.property? name with
  | some property, _ => .ok property
  | none, some property => .ok property
  | none, none => .error (.usage (.unknownConditionColumn name schema.name))

def boundCondition (schema : EntitySchema) (condition : Condition) :
    Except WriteError BoundCondition := do
  let property ← schema.conditionProperty condition.column
  let value ← WriteError.ofMapping (property.encode condition.value)
  return ⟨property.column, condition.comparison, value⟩

def updateStatement (schema : EntitySchema) (assignments : List (String × Assignment))
    (key : List CqlValue) (options : WriteOptions) : Except WriteError GeneratedStatement := do
  let clause ← usingOf options
  let conditions ← options.conditions.mapM schema.boundCondition
  return .plain (.update schema.table clause assignments (schema.keyClause key) conditions)

def counterHome (schema : EntitySchema) : String :=
  schema.counterTable?.getD schema.table

def counterStatement (schema : EntitySchema) (property : Property) (change : Change)
    (key : List CqlValue) : Except WriteError GeneratedStatement :=
  match change with
  | .assign delta => do
    let amount ← WriteError.ofMapping (property.encode delta)
    return ⟨.update schema.counterHome UsingClause.absent [(property.column, .add amount)]
      (schema.keyClause key) [], true, property.writeLevel⟩
  | change => .error (.usage (.counterChange property.name change.kind))

def requireShape (property : Property) (change : Change) (fits : FieldType → Bool) :
    Except WriteError Unit :=
  if fits property.type then .ok ()
  else .error (.usage (.changeMismatch change.kind property.name property.type))

def indexedAssignment (property : Property) (change : Change) : Except WriteError Assignment := do
  requireShape property change FieldType.isList
  match change with
  | .setAt index value =>
    return .replaceAt index (← WriteError.ofMapping (property.codec.element.encode value))
  | .removeAt index => return .eraseAt index
  | change => .error (.usage (.notIndexed change.kind))

def indexedStatement (schema : EntitySchema) (property : Property) (change : Change)
    (key : List CqlValue) (options : WriteOptions) : Except WriteError GeneratedStatement := do
  let assignment ← indexedAssignment property change
  schema.updateStatement [(property.column, assignment)] key options

def encodedItems (codec : ElementCodec) (items : List FieldValue) :
    Except WriteError (List CqlValue) :=
  WriteError.ofMapping (codec.encodeAll items)

/-- The codec of the keys of a map; every map has one. -/
def keyCodec (property : Property) : ElementCodec :=
  property.codec.key?.getD property.codec.element

def assignmentOf (property : Property) (change : Change) : Except WriteError Assignment :=
  let element := property.codec.element
  match change with
  | .assign value => do
    return .replace (← WriteError.ofMapping (property.encode value))
  | .addToSet values => do
    requireShape property change FieldType.isSet
    return .add (.set (← encodedItems element values))
  | .removeFromSet values => do
    requireShape property change FieldType.isSet
    return .subtract (.set (← encodedItems element values))
  | .append values => do
    requireShape property change FieldType.isList
    return .add (.list (← encodedItems element values))
  | .prepend values => do
    requireShape property change FieldType.isList
    return .addBefore (.list (← encodedItems element values))
  | .putToMap entries => do
    requireShape property change FieldType.isMap
    let encoded ← WriteError.ofMapping ((keyCodec property).encodeEntries element entries)
    return .add (.map encoded)
  | .removeFromMap keys => do
    requireShape property change FieldType.isMap
    return .subtract (.set (← encodedItems (keyCodec property) keys))
  | .clear => .ok .erase
  | .setAt _ _ | .removeAt _ => indexedAssignment property change

/-- What becomes of one change: a part of the shared UPDATE, or a statement of its own. -/
inductive PlannedChange where
  | shared (column : String) (assignment : Assignment)
  | collection (statement : GeneratedStatement)
  | counter (statement : GeneratedStatement)

namespace PlannedChange

def shared? : PlannedChange → Option (String × Assignment)
  | .shared column assignment => some (column, assignment)
  | _ => none

def collection? : PlannedChange → Option GeneratedStatement
  | .collection statement => some statement
  | _ => none

def counter? : PlannedChange → Option GeneratedStatement
  | .counter statement => some statement
  | _ => none

end PlannedChange

def plan (schema : EntitySchema) (key : List CqlValue) (options : WriteOptions)
    (change : PropertyChange) : Except WriteError PlannedChange := do
  let property ← WriteError.ofMapping (schema.property change.property)
  if property.isKey then .error (.usage (.keyUpdate property.name))
  else if property.isCounter then
    return .counter (← schema.counterStatement property change.change key)
  else
    let assignment ← assignmentOf property change.change
    if change.change.isAssign then return .shared property.column assignment
    else return .collection (← schema.updateStatement [(property.column, assignment)] key options)

def changeStatements (schema : EntitySchema) (fields : Fields) (changes : List PropertyChange)
    (options : WriteOptions) : Except WriteError (List GeneratedStatement) := do
  let key ← schema.keyOf fields
  let planned ← changes.mapM (schema.plan key options)
  let shared := planned.filterMap PlannedChange.shared?
  let combined ← if shared.isEmpty then .ok []
    else (schema.updateStatement shared key options).map ([·])
  return combined ++ planned.filterMap PlannedChange.collection? ++
    planned.filterMap PlannedChange.counter?

def insertedColumns (schema : EntitySchema) (strategy : InsertStrategy) (fields : Fields) :
    Except WriteError (List (String × CqlValue)) :=
  let present := schema.plains.filter fun property =>
    strategy = .allFields || !((fields property.name).getD .null).isNull
  present.mapM fun property => do
    let value ← WriteError.ofMapping (property.encode ((fields property.name).getD .null))
    return (property.column, value)

def insertStatement (schema : EntitySchema) (strategy : InsertStrategy) (fields : Fields)
    (key : List CqlValue) (options : WriteOptions) : Except WriteError GeneratedStatement := do
  let columns ← schema.insertedColumns (schema.insertStrategy.getD strategy) fields
  let clause ← usingOf options
  return .plain (.insert schema.table (schema.keyColumns key ++ columns) options.ifNotExists clause)

def insertedCounters (schema : EntitySchema) (key : List CqlValue)
    (changes : List PropertyChange) : Except WriteError (List GeneratedStatement) := do
  let planned ← changes.mapM fun change => do
    let property ← WriteError.ofMapping (schema.property change.property)
    if property.isCounter then
      return some (← schema.counterStatement property change.change key)
    else return none
  return planned.filterMap id

/-- An INSERT of all columns, and increments for pending counter amounts. -/
def insertStatements (schema : EntitySchema) (strategy : InsertStrategy) (subject : Subject)
    (options : WriteOptions) : Except WriteError (List GeneratedStatement) := do
  let key ← schema.keyOf subject.value?
  let inserted ← if schema.isClusteredCounter then .ok []
    else (schema.insertStatement strategy subject.value? key options).map ([·])
  let counters ← schema.insertedCounters key subject.changes
  return inserted ++ counters

def updateStatements (schema : EntitySchema) (subject : Subject) (options : WriteOptions) :
    Except WriteError (List GeneratedStatement) :=
  schema.changeStatements subject.value? subject.changes options

/-- A DELETE of the row, and of its counters when they have a table of their own. -/
def removeStatements (schema : EntitySchema) (key : List CqlValue) (options : WriteOptions) :
    List GeneratedStatement :=
  let counterDelete (table : String) : GeneratedStatement :=
    ⟨.delete table none (schema.keyClause key), true, none⟩
  if schema.isClusteredCounter then [counterDelete schema.table]
  else
    .plain (.delete schema.table options.timestamp (schema.keyClause key)) ::
      schema.counterTable?.toList.map counterDelete

end EntitySchema

end CqlMapper
