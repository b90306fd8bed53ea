import CqlMapper.Exchange.Declaration
import CqlMapper.WriteOptions

/-! Options of writes read from their JSON form. -/

namespace CqlMapper

def Comparison.read? : Json → Option Comparison :=
  Json.constant? [.eq, .notEq, .lt, .lte, .gt, .gte] Comparison.shown

def Condition.read? (json : Json) : Option Condition := do
  let column ← json.required? "column" Json.string?
  let comparison ← json.optional? "op" Comparison.read?
  let value ← json.required? "value" FieldValue.read?
  return ⟨column, comparison.getD .eq, value⟩

namespace Listener

def quietStart : String := "errors-only"

def named (name : String) : Listener :=
  ⟨name, !name.startsWith quietStart⟩

def read? (json : Json) : Option Listener :=
  json.string?.map named

end Listener

namespace WriteOptions

def read? (json : Json) : Option WriteOptions := do
  let ttl ← json.optional? "ttl" Json.natural?
  let timestamp ← json.optional? "timestamp" Json.int64?
  let level ← json.optional? "consistency" Level.read?
  let serialLevel ← json.optional? "serial_consistency" Level.read?
  let ifNotExists ← json.flag? "if_not_exists"
  let conditions ← json.listMember? "conditions" Condition.read?
  let listener ← json.optional? "listener" Listener.read?
  return ⟨ttl.map UInt32.ofNat, timestamp, level, serialLevel, ifNotExists, conditions, listener⟩

/-- The standard options when none are given. -/
def readMember? (json : Json) : Option WriteOptions :=
  (json.optional? "options" read?).map fun given => given.getD standard

end WriteOptions

end CqlMapper
