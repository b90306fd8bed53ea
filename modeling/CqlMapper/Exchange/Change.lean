import CqlMapper.Exchange.Declaration
import CqlMapper.Record

/-! Changes and record operations in their JSON form. -/

namespace CqlMapper

namespace Change

def toJson (change : Change) : Json :=
  let tag := change.kind.shown
  match change with
  | .assign value => .tagged tag value.exactJson
  | .addToSet values | .removeFromSet values | .append values | .prepend values
  | .removeFromMap values => .tagged tag (.ofList FieldValue.exactJson values)
  | .setAt index value =>
    .tagged tag (.object [("index", .ofNat index), ("value", value.exactJson)])
  | .removeAt index => .tagged tag (.object [("index", .ofNat index)])
  | .putToMap entries => .tagged tag (.ofPairs FieldValue.exactJson FieldValue.exactJson entries)
  | .clear => .string tag

def read? (json : Json) : Option Change :=
  let values (payload : Json) := payload.list? FieldValue.read?
  match json with
  | .string "RemoveCollectionOrMap" => some .clear
  | .object [("AssignWhole", payload)] => (FieldValue.read? payload).map .assign
  | .object [("AddToSet", payload)] => (values payload).map .addToSet
  | .object [("RemoveFromSet", payload)] => (values payload).map .removeFromSet
  | .object [("AppendToList", payload)] => (values payload).map .append
  | .object [("PrependToList", payload)] => (values payload).map .prepend
  | .object [("SetAtIndex", payload)] => do
    let index ← payload.required? "index" Json.natural?
    let value ← payload.required? "value" FieldValue.read?
    return .setAt index value
  | .object [("RemoveAtIndex", payload)] =>
    (payload.required? "index" Json.natural?).map .removeAt
  | .object [("PutToMap", payload)] => (FieldValue.readEntries? payload).map .putToMap
  | .object [("RemoveFromMap", payload)] => (values payload).map .removeFromMap
  | _ => none

end Change

namespace PropertyChange

def toJson (change : PropertyChange) : Json :=
  .object [("property", .string change.property), ("change", change.change.toJson)]

def read? (json : Json) : Option PropertyChange := do
  let property ← json.required? "property" Json.string?
  let change ← json.required? "change" Change.read?
  return ⟨property, change⟩

end PropertyChange

namespace Mutation

def readOn? (property : String) : String → List Json → Option Mutation
  | "set", [value] | "set_value", [value] => (FieldValue.read? value).map (.set property)
  | "increment", [delta] => delta.int64?.map (.increment property)
  | "list_append", [items] => (items.list? FieldValue.read?).map (.listAppend property)
  | "list_prepend", [items] => (items.list? FieldValue.read?).map (.listPrepend property)
  | "list_set", [index, value] => do
    let index ← index.natural?
    let value ← FieldValue.read? value
    return .listSet property index value
  | "list_remove_at", [index] => index.natural?.map (.listRemoveAt property)
  | "set_add", [value] => (FieldValue.read? value).map (.setAdd property)
  | "set_remove", [value] => (FieldValue.read? value).map (.setRemove property)
  | "map_put", [key, value] => do
    let key ← FieldValue.read? key
    let value ← FieldValue.read? value
    return .mapPut property key value
  | "map_remove", [key] => (FieldValue.read? key).map (.mapRemove property)
  | "clear", [] => some (.clear property)
  | _, _ => none

def read? : Json → Option Mutation
  | .array [.string "mark_clean"] => some .markClean
  | .array (.string operation :: .string property :: arguments) =>
    readOn? property operation arguments
  | _ => none

end Mutation

def Record.toJson (record : Record) (names : List String) : Json :=
  let present := (PropertyChange.distinctNames names).filterMap fun name =>
    (record.values name).map fun value => (name, value.exactJson)
  .object [
    ("values", .object present),
    ("dirty", .ofList PropertyChange.toJson record.dirtyChanges)]

end CqlMapper
