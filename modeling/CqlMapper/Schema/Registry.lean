import CqlMapper.Schema.Entity

/-! The schemas of all entities of an application, in the order of their names. -/

namespace CqlMapper

abbrev Registry := Keyed EntitySchema

namespace Registry

def register (registry : Registry) (schema : EntitySchema) : Except MappingError Registry :=
  match registry.get? schema.name with
  | some _ => .error (.schema schema.name .registeredTwice)
  | none => .ok (registry.put schema.name schema)

def schemas (registry : Registry) : List EntitySchema :=
  registry.map (·.2)

def shown (registry : Registry) : String :=
  Text.shownRecord "EntityRegistry" [
    ("metas", Text.shownEntries (registry.map fun entry => (Text.quoted entry.1, entry.2.shown)))]

end Registry

end CqlMapper
