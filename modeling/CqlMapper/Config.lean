import CqlMapper.Consistency.Level
import CqlMapper.Json.Reading
import CqlMapper.Text.Shown

/-! Settings of an entity manager, and their reading from JSON text. -/

namespace CqlMapper

/-- Which columns an INSERT binds: all of them, or those that hold a value. -/
inductive InsertStrategy where
  | allFields | notNullFields
  deriving DecidableEq, Inhabited

def InsertStrategy.shown : InsertStrategy → String
  | .allFields => "AllFields"
  | .notNullFields => "NotNullFields"

def InsertStrategy.ofName? : String → Option InsertStrategy
  | "AllFields" => some .allFields
  | "NotNullFields" => some .notNullFields
  | _ => none

structure Config where
  defaultRead : Level
  defaultWrite : Level
  defaultSerial : Option Level
  readLevels : Keyed Level
  writeLevels : Keyed Level
  insertStrategy : InsertStrategy
  deriving DecidableEq

namespace Config

def standard : Config :=
  ⟨.one, .one, none, [], [], .allFields⟩

instance : Inhabited Config := ⟨standard⟩

def shownLevels (levels : Keyed Level) : String :=
  Text.shownEntries (levels.map fun entry => (Text.quoted entry.1, entry.2.shown))

def shown (config : Config) : String :=
  Text.shownRecord "Config" [
    ("default_read_consistency", config.defaultRead.shown),
    ("default_write_consistency", config.defaultWrite.shown),
    ("default_serial_consistency", Text.shownOption (config.defaultSerial.map Level.shown)),
    ("read_consistency_map", shownLevels config.readLevels),
    ("write_consistency_map", shownLevels config.writeLevels),
    ("insert_strategy", config.insertStrategy.shown)]

/-- A constant is its name, or an object that gives null under its name. -/
def constantName? : Json → Option String
  | .string name => some name
  | .object [(name, .null)] => some name
  | _ => none

def level? (json : Json) : Option Level :=
  (constantName? json).bind Level.ofName?

def optionalLevel? : Json → Option (Option Level)
  | .null => some none
  | json => (level? json).map some

def levels? : Json → Option (Keyed Level)
  | .object members => do
    let levels ← members.mapM fun (table, json) => (level? json).map fun level => (table, level)
    return Keyed.ofList levels
  | _ => none

def strategy? (json : Json) : Option InsertStrategy :=
  (constantName? json).bind InsertStrategy.ofName?

def fieldNames : List String :=
  ["default_read_consistency", "default_write_consistency", "default_serial_consistency",
    "read_consistency_map", "write_consistency_map", "insert_strategy"]

def setField? (config : Config) (field : String) (json : Json) : Option Config :=
  match field with
  | "default_read_consistency" => (level? json).map fun level =>
      { config with defaultRead := level }
  | "default_write_consistency" => (level? json).map fun level =>
      { config with defaultWrite := level }
  | "default_serial_consistency" => (optionalLevel? json).map fun level =>
      { config with defaultSerial := level }
  | "read_consistency_map" => (levels? json).map fun levels =>
      { config with readLevels := levels }
  | "write_consistency_map" => (levels? json).map fun levels =>
      { config with writeLevels := levels }
  | "insert_strategy" => (strategy? json).map fun strategy =>
      { config with insertStrategy := strategy }
  | _ => none

/-- The members of a settings object after its opening brace. A known key may stand once, and the
value of an unknown one is only skimmed. -/
def readMembers? (budget : Nat) : Nat → List String → Config → List Char →
    Option (Config × List Char)
  | 0, _, _, _ => none
  | fuel + 1, seen, config, text => do
    let (key, text) ← Json.takeKey? .full text
    let (seen, config, text) ← if key ∈ fieldNames then
        if key ∈ seen then none
        else do
          let (json, text) ← Json.takeValue? .full budget (Json.greatestDepth - 1) text
          let config ← config.setField? key json
          some (key :: seen, config, text)
      else do
        let (_, text) ← Json.takeValue? .skim budget budget text
        some (seen, config, text)
    match Json.skipBlank text with
    | ',' :: rest => readMembers? budget fuel seen config rest
    | '}' :: rest => some (config, rest)
    | _ => none

def ofList? (items : List Json) : Option Config :=
  if items.length ≤ fieldNames.length then
    (fieldNames.zip items).foldlM (fun config (field, json) => config.setField? field json) standard
  else none

/-- Reads settings from a JSON object, or from a list of the first few in order. Missing ones have
their standard value. -/
def read? (text : String) : Option Config :=
  let chars := text.toList
  let fuel := Json.fuelFor chars
  let result := match Json.skipBlank chars with
    | '{' :: rest => match Json.skipBlank rest with
      | '}' :: rest => some (standard, rest)
      | rest => readMembers? fuel fuel [] standard rest
    | rest => match Json.takeValue? .full fuel Json.greatestDepth rest with
      | some (.array items, rest) => (ofList? items).map (·, rest)
      | _ => none
  match result with
  | some (config, rest) => if (Json.skipBlank rest).isEmpty then some config else none
  | none => none

end Config

end CqlMapper
