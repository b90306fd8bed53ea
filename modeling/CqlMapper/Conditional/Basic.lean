import CqlMapper.CqlValue.Shown
import CqlMapper.FieldValue.Shown
import CqlMapper.Keyed

/-! Conditional writes: their conditions, and what the store answers to them. -/

namespace CqlMapper

inductive Comparison where
  | eq | notEq | lt | lte | gt | gte
  deriving DecidableEq, Inhabited

namespace Comparison

def symbol : Comparison → String
  | .eq => "="
  | .notEq => "!="
  | .lt => "<"
  | .lte => "<="
  | .gt => ">"
  | .gte => ">="

def shown : Comparison → String
  | .eq => "Eq"
  | .notEq => "NotEq"
  | .lt => "Lt"
  | .lte => "Lte"
  | .gt => "Gt"
  | .gte => "Gte"

end Comparison

/-- What a column must hold for a write to take place. -/
structure Condition where
  column : String
  comparison : Comparison
  value : FieldValue

namespace Condition

def clause (condition : Condition) : String :=
  condition.column ++ " " ++ condition.comparison.symbol ++ " ?"

def shown (condition : Condition) : String :=
  Text.shownRecord "CasCondition" [
    ("column", Text.quoted condition.column),
    ("op", condition.comparison.shown),
    ("value", condition.value.shown)]

end Condition

inductive ConditionalKind where
  | insert | update
  deriving DecidableEq, Inhabited

def ConditionalKind.shown : ConditionalKind → String
  | .insert => "Insert"
  | .update => "Update"

structure Rejection where
  kind : ConditionalKind
  current : Keyed CqlValue

def Rejection.message (rejection : Rejection) : String :=
  "CAS " ++ rejection.kind.shown ++ " rejected, current values: " ++
    Text.shownEntries (rejection.current.map fun entry => (entry.1, entry.2.shown))

inductive Outcome where
  | applied
  | rejected (rejection : Rejection)

def Outcome.isApplied : Outcome → Bool
  | .applied => true
  | .rejected _ => false

/-- Who hears the outcome of a conditional write. Some only hear of rejections. -/
structure Listener where
  name : String
  hearsSuccess : Bool
  deriving DecidableEq

def Listener.hears (listener : Listener) (outcome : Outcome) : Bool :=
  listener.hearsSuccess || !outcome.isApplied

end CqlMapper
