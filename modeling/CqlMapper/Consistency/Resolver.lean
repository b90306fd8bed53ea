import CqlMapper.Schema.Registry

/-!
The level a call runs at: the one it asks for, else the one set for its table, else the default.
A level declared on an entity counts for its table unless the settings name that table.
-/

namespace CqlMapper

structure Resolver where
  defaultRead : Level
  defaultWrite : Level
  readLevels : Keyed Level
  writeLevels : Keyed Level

namespace Resolver

/-- Adds declared levels of tables, the first of several for one table, to those of the settings. -/
def withDeclared (levels : Keyed Level) (declared : EntitySchema → Option Level)
    (schemas : List EntitySchema) : Keyed Level :=
  schemas.foldl (fun levels schema =>
    match declared schema with
    | some level => Keyed.putNew schema.table level levels
    | none => levels) levels

def new (config : Config) (registry : Registry) : Resolver :=
  ⟨config.defaultRead, config.defaultWrite,
    withDeclared config.readLevels (·.readLevel) registry.schemas,
    withDeclared config.writeLevels (·.writeLevel) registry.schemas⟩

def ofConfig (config : Config) : Resolver :=
  new config []

def resolve (asked : Option Level) (levels : Keyed Level) (table : String) (fallback : Level) :
    Level :=
  match asked with
  | some level => level
  | none => (levels.get? table).getD fallback

def read (resolver : Resolver) (table : String) (asked : Option Level) : Level :=
  resolve asked resolver.readLevels table resolver.defaultRead

def write (resolver : Resolver) (table : String) (asked : Option Level) : Level :=
  resolve asked resolver.writeLevels table resolver.defaultWrite

end Resolver

end CqlMapper
