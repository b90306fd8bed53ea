import CqlMapper.Consistency.Level
import CqlMapper.CqlValue.Basic

/-! What is sent to the store: single statements, and envelopes of several. -/

namespace CqlMapper

structure BoundStatement where
  query : String
  values : List CqlValue
  level : Option Level
  serialLevel : Option Level
  /-- Whether the store is asked for a trace of the execution. -/
  tracing : Bool

def BoundStatement.plain (query : String) (values : List CqlValue) : BoundStatement :=
  ⟨query, values, none, none, false⟩

inductive BatchType where
  | logged | unlogged | counter
  deriving DecidableEq, Inhabited

namespace BatchType

def name : BatchType → String
  | .logged => "LOGGED"
  | .unlogged => "UNLOGGED"
  | .counter => "COUNTER"

def shown : BatchType → String
  | .logged => "Logged"
  | .unlogged => "Unlogged"
  | .counter => "Counter"

def ofName? : String → Option BatchType
  | "LOGGED" => some .logged
  | "UNLOGGED" => some .unlogged
  | "COUNTER" => some .counter
  | _ => none

end BatchType

structure Envelope where
  type : BatchType
  statements : List BoundStatement
  level : Level
  serialLevel : Option Level
  tracing : Bool

inductive Submission where
  | single (statement : BoundStatement)
  | batch (envelope : Envelope)

def Submission.statements : Submission → List BoundStatement
  | .single statement => [statement]
  | .batch envelope => envelope.statements

end CqlMapper
