import CqlMapper.Session.Manager
import CqlMapper.Text.Basic

/-!
Batch sessions: entity writes and hand-written statements that are sent together. Levels are fixed
for the session; an operation that asks for another one, or for a listener, empties the session.
-/

namespace CqlMapper

structure Batch where
  manager : EntityManager
  context : FlushContext

inductive BatchOperation where
  | write (kind : WriteKind) (entity : EntityRef) (options : WriteOptions)
  | removeById (entity : String) (key : List FieldValue) (options : WriteOptions)
  | native (query : String) (values : List CqlValue)

namespace Batch

def start (manager : EntityManager) (ordered unlogged : Bool) (level serialLevel : Option Level) :
    Batch :=
  let mode : FlushMode := if ordered then .orderedBatch else .batch
  let type : BatchType := if unlogged then .unlogged else .logged
  ⟨manager, (FlushContext.new mode type).start level serialLevel⟩

def restart (batch : Batch) (level serialLevel : Option Level) : Batch :=
  { batch with context := batch.context.start level serialLevel }

def clean (batch : Batch) : Batch :=
  { batch with context := batch.context.clean }

def refusal? (batch : Batch) (options : WriteOptions) : Option UsageFault :=
  match options.level.filter fun level => batch.context.level != some level with
  | some level => some (.batchLevel level)
  | none =>
    match options.serialLevel.filter fun level => batch.context.serialLevel != some level with
    | some level => some (.batchSerialLevel level)
    | none => if options.listener.isSome then some .batchListener else none

def nativeKeywords : List (List Char) :=
  ["INSERT".toList, "UPDATE".toList, "DELETE".toList]

/-- Whether a text begins with a write keyword in any letter case, blanks aside. -/
def isNativeWrite (query : String) : Bool :=
  let head := (query.toList.dropWhile Text.isBlank).take 6
  (head.map Char.toUpper) ∈ nativeKeywords

def nativeStatement (batch : Batch) (query : String) (values : List CqlValue) :
    PendingStatement where
  query := query
  values := values
  counter := false
  propertyLevel := none
  level := batch.context.level.getD batch.manager.config.defaultWrite
  serialLevel := batch.context.serialLevel
  listener := none

/-- Runs a preparation unless the options are refused, which empties the session. -/
def guarded (batch : Batch) (options : WriteOptions) (world : World)
    (prepare : FlushContext → World → Except WriteError Unit × FlushContext × World) :
    Except WriteError Unit × Batch × World :=
  match batch.refusal? options with
  | some fault => (.error (.usage fault), batch.clean, world)
  | none =>
    let (result, context, world) := prepare batch.context world
    (result, { batch with context := context }, world)

def perform (batch : Batch) (operation : BatchOperation) (world : World) :
    Except WriteError Unit × Batch × World :=
  match operation with
  | .write kind entity options =>
    batch.guarded options world (batch.manager.prepare kind entity options)
  | .removeById entity key options =>
    batch.guarded options world (batch.manager.prepareRemoveById entity key options)
  | .native query values =>
    if isNativeWrite query then
      (.ok (), { batch with context := batch.context.push (batch.nativeStatement query values) },
        world)
    else (.error (.usage (.notAWrite query)), batch, world)

def flush (batch : Batch) (world : World) : Except WriteError Outcome × Batch × World :=
  let (result, context, world) := batch.context.flush world
  (result, { batch with context := context }, world)

def detach (batch : Batch) : FlushContext × Batch :=
  (batch.context, batch.clean)

end Batch

end CqlMapper
