import CqlMapper.Change.Merge
import CqlMapper.Interceptor
import CqlMapper.MappingError

/-!
Records: entities that remember the state they were loaded with and every operation since, and
report what has to be written to the store.
-/

namespace CqlMapper

structure Record where
  entity : String
  values : Fields
  /-- The values when the record was last clean. -/
  snapshot : Fields
  /-- Properties given a whole value since, in the order of their first assignment. -/
  assigned : List String
  /-- Properties cleared since and not written again. -/
  cleared : List String
  /-- Collection operations on properties that are not assigned. -/
  operations : List PropertyChange
  /-- Amounts added to counters since. -/
  increments : List (String × Int64)

namespace Record

/-- A record not yet in the store: every value set on it is a change. -/
def new (entity : String) : Record :=
  ⟨entity, Fields.empty, Fields.empty, [], [], [], []⟩

def loaded (entity : String) (values : List (String × FieldValue)) : Record :=
  let fields := Fields.empty.setAll values
  ⟨entity, fields, fields, [], [], [], []⟩

/-- The value of a property, null when it has none. -/
def current (record : Record) (property : String) : FieldValue :=
  (record.values property).getD .null

def set (record : Record) (property : String) (value : FieldValue) : Record :=
  { record with
    values := record.values.set property value
    operations := record.operations.filter fun change => change.property != property
    cleared := record.cleared.filter fun name => name != property
    assigned :=
      if property ∈ record.assigned then record.assigned else record.assigned ++ [property] }

def setAll (record : Record) (assignments : List (String × FieldValue)) : Record :=
  assignments.foldl (fun record assignment => record.set assignment.1 assignment.2) record

def addIncrement (property : String) (delta : Int64) :
    List (String × Int64) → List (String × Int64)
  | [] => [(property, delta)]
  | entry :: rest =>
    if entry.1 = property then (entry.1, entry.2 + delta) :: rest
    else entry :: addIncrement property delta rest

def increment (record : Record) (property : String) (delta : Int64) : Record :=
  { record with increments := addIncrement property delta record.increments }

/-- Notes an operation whose effect is already in the values. A property with a new whole value
needs no note, and one that was cleared is now assigned. -/
def note (record : Record) (property : String) (change : Change) : Record :=
  if property ∈ record.assigned then record
  else if property ∈ record.cleared then record.set property (record.current property)
  else { record with operations := record.operations ++ [⟨property, change⟩] }

def putValue (record : Record) (property : String) (value : FieldValue) : Record :=
  { record with values := record.values.set property value }

def wrongShape {α : Type} (property expected : String) (found : FieldValue) :
    Except MappingError α :=
  .error (.wrongShape property found.kindName expected)

def listAt (record : Record) (property : String) : Except MappingError (List FieldValue) :=
  match record.current property with
  | .null => .ok []
  | .list items => .ok items
  | other => wrongShape property "list" other

def setAt (record : Record) (property : String) : Except MappingError (List FieldValue) :=
  match record.current property with
  | .null => .ok []
  | .set items => .ok items
  | other => wrongShape property "set" other

def mapAt (record : Record) (property : String) :
    Except MappingError (List (FieldValue × FieldValue)) :=
  match record.current property with
  | .null => .ok []
  | .map entries => .ok entries
  | other => wrongShape property "map" other

/-- The list under a property, provided the index lies within it. -/
def indexedListAt (record : Record) (property : String) (index : Nat) :
    Except MappingError (List FieldValue) := do
  let items ← record.listAt property
  if index < items.length then .ok items else .error (.outOfBounds property index)

def listAppend (record : Record) (property : String) (values : List FieldValue) :
    Except MappingError Record :=
  (record.listAt property).map fun items =>
    (record.putValue property (.list (items ++ values))).note property (.append values)

def listPrepend (record : Record) (property : String) (values : List FieldValue) :
    Except MappingError Record :=
  (record.listAt property).map fun items =>
    (record.putValue property (.list (values ++ items))).note property (.prepend values)

def listSet (record : Record) (property : String) (index : Nat) (value : FieldValue) :
    Except MappingError Record :=
  (record.indexedListAt property index).map fun items =>
    (record.putValue property (.list (items.set index value))).note property (.setAt index value)

def listRemoveAt (record : Record) (property : String) (index : Nat) :
    Except MappingError Record :=
  (record.indexedListAt property index).map fun items =>
    (record.putValue property (.list (items.eraseIdx index))).note property (.removeAt index)

def setAdd (record : Record) (property : String) (value : FieldValue) :
    Except MappingError Record :=
  (record.setAt property).map fun items =>
    (record.putValue property (.set (FieldValue.addNew items value))).note property
      (.addToSet [value])

def setRemove (record : Record) (property : String) (value : FieldValue) :
    Except MappingError Record :=
  (record.setAt property).map fun items =>
    (record.putValue property (.set (FieldValue.without items value))).note property
      (.removeFromSet [value])

def mapPut (record : Record) (property : String) (key value : FieldValue) :
    Except MappingError Record :=
  (record.mapAt property).map fun entries =>
    (record.putValue property (.map (FieldValue.putEntry key value entries))).note property
      (.putToMap [(key, value)])

def mapRemove (record : Record) (property : String) (key : FieldValue) :
    Except MappingError Record :=
  (record.mapAt property).map fun entries =>
    (record.putValue property (.map (FieldValue.withoutKey entries key))).note property
      (.removeFromMap [key])

def clear (record : Record) (property : String) : Record :=
  { record with
    values := record.values.set property .null
    assigned := record.assigned.filter fun name => name != property
    operations := (record.operations.filter fun change => change.property != property) ++
      [⟨property, .clear⟩]
    cleared := if property ∈ record.cleared then record.cleared else record.cleared ++ [property] }

def markClean (record : Record) : Record :=
  { record with
    snapshot := record.values, assigned := [], cleared := [], operations := [], increments := [] }

def differs (record : Record) (property : String) : Bool :=
  match record.snapshot property with
  | some value => !(value == record.current property)
  | none => true

/-- What has to be written: new whole values, then merged operations, then counter increments. -/
def dirtyChanges (record : Record) : List PropertyChange :=
  ((record.assigned.filter record.differs).map fun property =>
      ⟨property, .assign (record.current property)⟩) ++
    PropertyChange.merge record.operations ++
    ((record.increments.filter fun entry => entry.2 != 0).map fun entry =>
      ⟨entry.1, .assign (.counter entry.2)⟩)

end Record

inductive Mutation where
  | set (property : String) (value : FieldValue)
  | increment (property : String) (delta : Int64)
  | listAppend (property : String) (values : List FieldValue)
  | listPrepend (property : String) (values : List FieldValue)
  | listSet (property : String) (index : Nat) (value : FieldValue)
  | listRemoveAt (property : String) (index : Nat)
  | setAdd (property : String) (value : FieldValue)
  | setRemove (property : String) (value : FieldValue)
  | mapPut (property : String) (key value : FieldValue)
  | mapRemove (property : String) (key : FieldValue)
  | clear (property : String)
  | markClean

def Mutation.property? : Mutation → Option String
  | .set p _ | .increment p _ | .listAppend p _ | .listPrepend p _ | .listSet p _ _
  | .listRemoveAt p _ | .setAdd p _ | .setRemove p _ | .mapPut p _ _ | .mapRemove p _
  | .clear p => some p
  | .markClean => none

namespace Record

def apply (record : Record) : Mutation → Except MappingError Record
  | .set property value => .ok (record.set property value)
  | .increment property delta => .ok (record.increment property delta)
  | .listAppend property values => record.listAppend property values
  | .listPrepend property values => record.listPrepend property values
  | .listSet property index value => record.listSet property index value
  | .listRemoveAt property index => record.listRemoveAt property index
  | .setAdd property value => record.setAdd property value
  | .setRemove property value => record.setRemove property value
  | .mapPut property key value => record.mapPut property key value
  | .mapRemove property key => record.mapRemove property key
  | .clear property => .ok (record.clear property)
  | .markClean => .ok record.markClean

/-! The operations in place: each gives its result and the record that it leaves, also when it
fails. A property without a value gets its collection before the collection is looked at. -/

def slot (record : Record) (property : String) (empty : FieldValue) : FieldValue × Record :=
  let held := record.current property
  if held.isNull then (empty, record.putValue property empty) else (held, record)

def listIn (record : Record) (property : String) :
    Except MappingError (List FieldValue) × Record :=
  match record.slot property (.list []) with
  | (.list items, left) => (.ok items, left)
  | (other, left) => (wrongShape property "list" other, left)

def setIn (record : Record) (property : String) : Except MappingError (List FieldValue) × Record :=
  match record.slot property (.set []) with
  | (.set items, left) => (.ok items, left)
  | (other, left) => (wrongShape property "set" other, left)

def mapIn (record : Record) (property : String) :
    Except MappingError (List (FieldValue × FieldValue)) × Record :=
  match record.slot property (.map []) with
  | (.map entries, left) => (.ok entries, left)
  | (other, left) => (wrongShape property "map" other, left)

/-- A list that does not reach to the index is not made. -/
def indexedListIn (record : Record) (property : String) (index : Nat) :
    Except MappingError (List FieldValue) × Record :=
  match record.values property with
  | some (.list items) =>
    (if index < items.length then .ok items else .error (.outOfBounds property index), record)
  | none | some .null => (.error (.outOfBounds property index), record)
  | some other => (wrongShape property "list" other, record)

/-- Rewrites what was found, and notes how. -/
def revise {α : Type} (found : Except MappingError α × Record) (property : String)
    (made : α → FieldValue) (change : Change) : Except MappingError Unit × Record :=
  match found with
  | (.ok contents, left) => (.ok (), (left.putValue property (made contents)).note property change)
  | (.error problem, left) => (.error problem, left)

def perform (record : Record) : Mutation → Except MappingError Unit × Record
  | .set property value => (.ok (), record.set property value)
  | .increment property delta => (.ok (), record.increment property delta)
  | .listAppend property values =>
    revise (record.listIn property) property (fun items => .list (items ++ values))
      (.append values)
  | .listPrepend property values =>
    revise (record.listIn property) property (fun items => .list (values ++ items))
      (.prepend values)
  | .listSet property index value =>
    revise (record.indexedListIn property index) property
      (fun items => .list (items.set index value)) (.setAt index value)
  | .listRemoveAt property index =>
    revise (record.indexedListIn property index) property
      (fun items => .list (items.eraseIdx index)) (.removeAt index)
  | .setAdd property value =>
    revise (record.setIn property) property (fun items => .set (FieldValue.addNew items value))
      (.addToSet [value])
  | .setRemove property value =>
    revise (record.setIn property) property (fun items => .set (FieldValue.without items value))
      (.removeFromSet [value])
  | .mapPut property key value =>
    revise (record.mapIn property) property
      (fun entries => .map (FieldValue.putEntry key value entries)) (.putToMap [(key, value)])
  | .mapRemove property key =>
    revise (record.mapIn property) property
      (fun entries => .map (FieldValue.withoutKey entries key)) (.removeFromMap [key])
  | .clear property => (.ok (), record.clear property)
  | .markClean => (.ok (), record.markClean)

end Record

end CqlMapper
