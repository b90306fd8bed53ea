import CqlMapper.Conditional.Response
import CqlMapper.Session.World
import CqlMapper.Statement.Basic

/-!
Flush contexts: statements and callbacks gathered for one unit of work, and their execution, one by
one or as one envelope for plain and one for counter statements. A rejection or a failure ends the
execution, and nothing is pending afterwards in any case.
-/

namespace CqlMapper

inductive FlushMode where
  | immediate
  | batch
  /-- A batch that gives every operation a later timestamp. -/
  | orderedBatch
  deriving DecidableEq, Inhabited

def FlushMode.shown : FlushMode → String
  | .immediate => "Immediate"
  | .batch => "Batch"
  | .orderedBatch => "OrderedBatch"

structure PendingStatement where
  query : String
  values : List CqlValue
  counter : Bool
  propertyLevel : Option Level
  level : Level
  serialLevel : Option Level
  listener : Option Listener

namespace PendingStatement

def shown (pending : PendingStatement) : String :=
  Text.shownRecord "PendingStatement" [
    ("statement", Text.shownRecord "GeneratedStatement" [
      ("query", Text.quoted pending.query),
      ("values", CqlValue.shownAll pending.values),
      ("counter", Text.shownBool pending.counter),
      ("property_consistency", Text.shownOption (pending.propertyLevel.map Level.shown))]),
    ("consistency", pending.level.shown),
    ("serial_consistency", Text.shownOption (pending.serialLevel.map Level.shown)),
    ("listener", Text.shownBool pending.listener.isSome)]

def single (pending : PendingStatement) (tracing : Bool) : BoundStatement :=
  ⟨pending.query, pending.values, some pending.level, pending.serialLevel, tracing⟩

/-- In an envelope the levels are those of the envelope. -/
def batched (pending : PendingStatement) : BoundStatement :=
  .plain pending.query pending.values

end PendingStatement

structure FlushContext where
  mode : FlushMode
  batchType : BatchType
  statements : List PendingStatement
  counterStatements : List PendingStatement
  callbacks : List Callback
  level : Option Level
  serialLevel : Option Level
  clock : StampClock

namespace FlushContext

def new (mode : FlushMode) (batchType : BatchType) : FlushContext :=
  ⟨mode, batchType, [], [], [], none, none, StampClock.new⟩

def immediate : FlushContext :=
  new .immediate .logged

def isBatch (context : FlushContext) : Bool :=
  context.mode != .immediate

def pending (context : FlushContext) : Nat :=
  context.statements.length + context.counterStatements.length

def shown (context : FlushContext) : String :=
  Text.shownRecord "FlushContext" [
    ("mode", context.mode.shown),
    ("batch_type", context.batchType.shown),
    ("statements", Text.shownNat context.statements.length),
    ("counter_statements", Text.shownNat context.counterStatements.length),
    ("event_holders", Text.shownNat context.callbacks.length),
    ("consistency", Text.shownOption (context.level.map Level.shown)),
    ("serial_consistency", Text.shownOption (context.serialLevel.map Level.shown))]

def push (context : FlushContext) (pending : PendingStatement) : FlushContext :=
  if pending.counter then
    { context with counterStatements := context.counterStatements ++ [pending] }
  else { context with statements := context.statements ++ [pending] }

def pushAll (context : FlushContext) (pending : List PendingStatement) : FlushContext :=
  pending.foldl push context

def queue (context : FlushContext) (entity : EntityRef) (schema : EntitySchema) (event : Event) :
    FlushContext :=
  if schema.interceptsOn event then
    { context with callbacks := context.callbacks ++ [⟨entity, schema, event⟩] }
  else context

/-- Interceptors of a pre event run at once, those of a post event wait for the flush. -/
def trigger (context : FlushContext) (entity : EntityRef) (schema : EntitySchema) (event : Event)
    (world : World) : Except WriteError Unit × FlushContext × World :=
  if event.isPost then (.ok (), context.queue entity schema event, world)
  else if schema.interceptsOn event then
    let (result, world) := Callback.run ⟨entity, schema, event⟩ world
    (result, context, world)
  else (.ok (), context, world)

def nextStamp (context : FlushContext) (world : World) :
    Except WriteError (Option Int64) × FlushContext × World :=
  match context.mode with
  | .orderedBatch =>
    let (stamp, clock, wall) := context.clock.tick world.wall
    let context := { context with clock := clock }
    let world := { world with wall := wall }
    match stamp with
    | .ok stamp => (.ok (some stamp), context, world)
    | .error error => (.error (.mapping error), context, world)
  | .immediate | .batch => (.ok none, context, world)

def clean (context : FlushContext) : FlushContext :=
  { context with statements := [], counterStatements := [], callbacks := [] }

def start (context : FlushContext) (level serialLevel : Option Level) : FlushContext :=
  { context.clean with level := level, serialLevel := serialLevel }

def executeOne (pending : PendingStatement) (world : World) : Except WriteError Outcome × World :=
  let statement := pending.single world.tracing
  match (world.log [.statement false statement]).submit (.single statement) with
  | (.error error, world) => (.error (.store error), world)
  | (.ok result, world) =>
    let world := world.logInfo result
    match interpret statement.query result with
    | .error error => (.error error, world)
    | .ok outcome =>
      (.ok outcome,
        if isConditionalQuery statement.query then world.notify pending.listener outcome else world)

/-- Executes statements one by one, up to the first that fails or is rejected. -/
def executeEach : List PendingStatement → World → Except WriteError Outcome × World
  | [], world => (.ok .applied, world)
  | pending :: rest, world =>
    match executeOne pending world with
    | (.ok .applied, world) => executeEach rest world
    | stopped => stopped

def envelope (context : FlushContext) (type : BatchType) (first : PendingStatement)
    (statements : List PendingStatement) (tracing : Bool) : Envelope where
  type := type
  statements := statements.map (·.batched)
  level := context.level.getD first.level
  serialLevel := context.serialLevel.or first.serialLevel
  tracing := tracing

/-- The one answer to an envelope is read as that to its first conditional statement. -/
def interpretBatch (statements : List BoundStatement) (result : ResultSet) :
    Except WriteError Outcome :=
  match statements.find? fun statement => isConditionalQuery statement.query with
  | some conditional => interpret conditional.query result
  | none => .ok .applied

def executeEnvelope (context : FlushContext) (type : BatchType)
    (statements : List PendingStatement) (world : World) : Except WriteError Outcome × World :=
  match statements with
  | [] => (.ok .applied, world)
  | first :: _ =>
    let envelope := context.envelope type first statements world.tracing
    let before := LogEntry.batchStart type envelope.level envelope.statements.length ::
      envelope.statements.map fun statement => .statement true statement
    match (world.log before).submit (.batch envelope) with
    | (.error error, world) => (.error (.store error), world)
    | (.ok result, world) =>
      let world := (world.log [.batchEnd type envelope.level]).logInfo result
      (interpretBatch envelope.statements result, world)

/-- Executes the pending statements. In a batch the counters follow only when all before them was
applied. -/
def execute (context : FlushContext) (world : World) : Except WriteError Outcome × World :=
  match context.mode with
  | .immediate => executeEach (context.statements ++ context.counterStatements) world
  | .batch | .orderedBatch =>
    match context.executeEnvelope context.batchType context.statements world with
    | (.ok .applied, world) => context.executeEnvelope .counter context.counterStatements world
    | stopped => stopped

/-- Executes the pending statements, then runs the callbacks if all were applied. -/
def run (context : FlushContext) (world : World) : Except WriteError Outcome × World :=
  match context.execute world with
  | (.ok .applied, world) =>
    match Callback.runAll context.callbacks world with
    | (.ok (), world) => (.ok .applied, world)
    | (.error error, world) => (.error error, world)
  | stopped => stopped

/-- Runs the context and leaves it with nothing pending, whatever the result. -/
def flush (context : FlushContext) (world : World) :
    Except WriteError Outcome × FlushContext × World :=
  let (result, world) := context.run world
  (result, context.clean, world)

end FlushContext

end CqlMapper
