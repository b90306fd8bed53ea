import CqlMapper.CqlValue.Shown
import CqlMapper.Store.Result
import CqlMapper.Store.Submission

/-! Log entries of the statements sent to the store and of the traces it returns. -/

namespace CqlMapper

inductive Severity where
  | debug | trace
  deriving DecidableEq

def Severity.name : Severity → String
  | .debug => "DEBUG"
  | .trace => "TRACE"

inductive LogEntry where
  | statement (batched : Bool) (bound : BoundStatement)
  | batchStart (type : BatchType) (level : Level) (statements : Nat)
  | batchEnd (type : BatchType) (level : Level)
  | execution (host : String) (achieved : Option Level)
  | missingTrace
  | traced (id : Uuid) (event : TraceEvent)

namespace LogEntry

def severity : LogEntry → Severity
  | .statement _ _ | .batchStart _ _ _ | .batchEnd _ _ => .debug
  | .execution _ _ | .missingTrace | .traced _ _ => .trace

def message : LogEntry → String
  | .statement _ _ => "execute"
  | .batchStart _ _ _ => "batch START"
  | .batchEnd _ _ => "batch END"
  | .execution _ _ => "execution info"
  | .missingTrace => "query trace not available"
  | .traced _ event => event.description

def levelLabel (level : Option Level) : String :=
  (level.map Level.name).getD "DEFAULT"

def fields : LogEntry → List (String × String)
  | .statement batched bound => [
      ("kind", if batched then "batched" else "statement"),
      ("query", bound.query),
      ("consistency", levelLabel bound.level),
      ("values", CqlValue.shownAll bound.values)]
  | .batchStart type level statements => [
      ("batch_type", type.name),
      ("consistency", level.name),
      ("statements", Text.shownNat statements)]
  | .batchEnd type level => [("batch_type", type.name), ("consistency", level.name)]
  | .execution host achieved => [
      ("queried_host", host),
      ("achieved_consistency", levelLabel achieved)]
  | .missingTrace => []
  | .traced id event => [
      ("trace_id", id.text),
      ("source", event.source),
      ("elapsed_micros", Text.shownInt event.elapsed.toInt),
      ("thread", event.thread)]

/-- Trace events by host; each host keeps its own order. -/
def eventsByHost (trace : QueryTrace) : List TraceEvent :=
  trace.events.mergeSort fun a b => !(b.source < a.source)

def ofInfo (info : ExecutionInfo) : List LogEntry :=
  .execution info.host info.achieved :: match info.trace with
    | none => [.missingTrace]
    | some trace => (eventsByHost trace).map fun event => .traced trace.id event

end LogEntry

end CqlMapper
