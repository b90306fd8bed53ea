import CqlMapper.Conditional.Basic
import CqlMapper.Consistency.Level

/-! Options of a single write. -/

namespace CqlMapper

structure WriteOptions where
  /-- Seconds. -/
  ttl : Option UInt32
  /-- Microseconds since the Unix epoch. -/
  timestamp : Option Int64
  level : Option Level
  serialLevel : Option Level
  ifNotExists : Bool
  conditions : List Condition
  listener : Option Listener

namespace WriteOptions

def standard : WriteOptions :=
  ⟨none, none, none, none, false, [], none⟩

def isConditional (options : WriteOptions) : Bool :=
  options.ifNotExists || !options.conditions.isEmpty

def shown (options : WriteOptions) : String :=
  Text.shownRecord "WriteOptions" [
    ("ttl", Text.shownOption (options.ttl.map fun ttl => Text.shownNat ttl.toNat)),
    ("timestamp",
      Text.shownOption (options.timestamp.map fun timestamp => Text.shownInt timestamp.toInt)),
    ("consistency", Text.shownOption (options.level.map Level.shown)),
    ("serial_consistency", Text.shownOption (options.serialLevel.map Level.shown)),
    ("if_not_exists", Text.shownBool options.ifNotExists),
    ("cas_conditions", Text.shownList (options.conditions.map Condition.shown)),
    ("cas_listener", Text.shownBool options.listener.isSome)]

end WriteOptions

end CqlMapper
