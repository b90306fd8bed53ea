import CqlMapper.Session.Tasks

/-!
A workbench keeps records, batch sessions, flush contexts and tickets under names, and carries out
the operations of an application on them. A name that is not there gives nothing.
-/

namespace CqlMapper

structure NamedRecord where
  entity : EntityRef
  seen : List String

structure NamedContext where
  context : FlushContext
  /-- The last timestamp that the context, or the one it was copied from, has given. -/
  last : Option Int64

structure Workbench where
  manager : EntityManager
  world : World
  tasks : Tasks
  records : Keyed NamedRecord
  tickets : Keyed Ticket
  batches : Keyed Batch
  contexts : Keyed NamedContext

abbrev Bench := StateT Workbench Option

namespace Workbench

def new (manager : EntityManager) (world : World) (executor : Executor) : Workbench :=
  ⟨manager, world, Tasks.new executor, [], [], [], []⟩

def onWorld {α : Type} (call : World → α × World) : Bench α :=
  modifyGet fun bench =>
    let (result, world) := call bench.world
    (result, { bench with world := world })

def changeWorld (call : World → World) : Bench Unit :=
  onWorld fun world => ((), call world)

/-! Records. -/

def addRecord (name : String) (record : Record) (seen : List String) : Bench Unit := do
  let entity ← onWorld fun world => world.addRecord record
  modify fun bench => { bench with records := bench.records.put name ⟨entity, seen⟩ }

def entity (name : String) : Bench EntityRef := do
  let named ← (← get).records.get? name
  return named.entity

def record? (bench : Workbench) (name : String) : Option Record :=
  (bench.records.get? name).bind fun named => (bench.world.cell? named.entity).map (·.record)

def propertyNames (bench : Workbench) (entity : String) : List String :=
  match Keyed.get? bench.manager.registry entity with
  | some schema => schema.properties.map (·.name)
  | none => []

/-- What is to be seen of a record: the properties of its schema and all others named so far. -/
def visible (bench : Workbench) (name : String) (record : Record) : List String :=
  ((bench.records.get? name).map (·.seen)).getD [] ++ bench.propertyNames record.entity

def mutate (name : String) (mutations : List Mutation) :
    Bench (List (Except MappingError Unit)) := do
  let named ← (← get).records.get? name
  let results ← mutations.mapM fun mutation => do
    let record ← (← get).record? name
    let (result, left) := record.perform mutation
    changeWorld fun world => world.putRecord named.entity left
    return result
  let seen := named.seen ++ mutations.filterMap Mutation.property?
  modify fun bench => { bench with records := bench.records.put name ⟨named.entity, seen⟩ }
  return results

def poison (name : String) : Bench Unit := do
  let entity ← entity name
  changeWorld fun world => world.poison entity

/-! Writes. -/

def write (kind : WriteKind) (name : String) (options : WriteOptions) :
    Bench (Except WriteError Outcome) := do
  let entity ← entity name
  let manager := (← get).manager
  onWorld fun world => manager.write kind entity options world

def removeById (entity : String) (key : List FieldValue) (options : WriteOptions) :
    Bench (Except WriteError Outcome) := do
  let manager := (← get).manager
  onWorld fun world => manager.removeById entity key options world

def pendingUpdate (name : String) : Bench (Except WriteError (List GeneratedStatement)) := do
  let bench ← get
  let record ← bench.record? name
  return do
    let schema ← bench.manager.schema record.entity
    schema.updateStatements record.subject WriteOptions.standard

def submit (submission : Submission) : Bench (Except StoreError ResultSet) :=
  onWorld fun world => world.submit submission

def changeStore (change : ScriptedStore → ScriptedStore) : Bench Unit :=
  changeWorld fun world =>
    { world with backend := { world.backend with store := change world.backend.store } }

/-! Asynchronous writes. -/

def writeAsync (kind : WriteKind) (name : String) (options : WriteOptions) :
    Bench (Except WriteError Ticket) := do
  let entity ← entity name
  modifyGet fun bench =>
    let (result, tasks, world) :=
      bench.manager.writeAsync kind entity options bench.tasks bench.world
    (result, { bench with tasks := tasks, world := world })

def keepTicket (name : String) (ticket : Ticket) : Bench Unit :=
  modify fun bench => { bench with tickets := bench.tickets.put name ticket }

def outcomeOf (ticket : Ticket) : Bench (Except WriteError Outcome) :=
  modifyGet fun bench =>
    let (result, tasks) := bench.tasks.wait ticket
    (result, { bench with tasks := tasks })

def forget (name : String) : Bench Bool :=
  modifyGet fun bench =>
    ((bench.tickets.get? name).isSome, { bench with tickets := bench.tickets.erase name })

def wait (name : String) : Bench (Except WriteError Outcome) := do
  let ticket ← (← get).tickets.get? name
  let _ ← forget name
  outcomeOf ticket

def tryWait (name : String) : Bench (Option (Except WriteError Outcome)) := do
  let ticket ← (← get).tickets.get? name
  modifyGet fun bench =>
    let (result, tasks) := bench.tasks.take? ticket
    (result, { bench with tasks := tasks })

def runTasks (wanted : Option Nat) : Bench Nat :=
  modifyGet fun bench =>
    let (ran, tasks, world) :=
      Tasks.work (wanted.getD bench.tasks.waiting.length) bench.tasks bench.world
    (ran, { bench with tasks := tasks, world := world })

/-! Batch sessions. -/

def batch (name : String) : Bench Batch := do
  (← get).batches.get? name

def putBatch (name : String) (batch : Batch) : Bench Unit :=
  modify fun bench => { bench with batches := bench.batches.put name batch }

def startBatch (name : String) (ordered unlogged : Bool) (level serialLevel : Option Level) :
    Bench Unit := do
  putBatch name (Batch.start (← get).manager ordered unlogged level serialLevel)

def changeBatch (name : String) (change : Batch → Batch) : Bench Unit := do
  putBatch name (change (← batch name))

def perform (name : String) (operation : BatchOperation) : Bench (Except WriteError Unit) := do
  let batch ← batch name
  let (result, batch) ← onWorld fun world =>
    let (result, batch, world) := batch.perform operation world
    ((result, batch), world)
  putBatch name batch
  return result

def flushBatch (name : String) : Bench (Except WriteError Outcome) := do
  let batch ← batch name
  let (result, batch) ← onWorld fun world =>
    let (result, batch, world) := batch.flush world
    ((result, batch), world)
  putBatch name batch
  return result

def flushBatchAsync (name : String) : Bench Ticket := do
  let batch ← batch name
  let (ticket, batch) ← modifyGet fun bench =>
    let (ticket, batch, tasks, world) := batch.flushAsync bench.tasks bench.world
    ((ticket, batch), { bench with tasks := tasks, world := world })
  putBatch name batch
  return ticket

def dropBatch (name : String) : Bench Bool :=
  modifyGet fun bench =>
    ((bench.batches.get? name).isSome, { bench with batches := bench.batches.erase name })

/-! Flush contexts. -/

def named (name : String) : Bench NamedContext := do
  (← get).contexts.get? name

def putContext (name : String) (named : NamedContext) : Bench Unit :=
  modify fun bench => { bench with contexts := bench.contexts.put name named }

def changeContext (name : String) (change : FlushContext → FlushContext) : Bench Unit := do
  let named ← named name
  putContext name { named with context := change named.context }

def copyContext (name target : String) (variant : FlushContext → FlushContext) :
    Bench FlushContext := do
  let named ← named name
  let copy := variant named.context
  putContext target { named with context := copy }
  return copy

def runContext {α : Type} (name : String)
    (call : FlushContext → World → α × FlushContext × World) : Bench α := do
  let named ← named name
  let (result, context) ← onWorld fun world =>
    let (result, context, world) := call named.context world
    ((result, context), world)
  putContext name { named with context := context }
  return result

def trigger (name record : String) (entity : String) (event : Event) :
    Bench (Except WriteError Unit) := do
  let place ← Workbench.entity record
  match (← get).manager.schema entity with
  | .ok schema => runContext name fun context => context.trigger place schema event
  | .error error => return .error error

def intercept (record : String) (entity : String) (event : Event) :
    Bench (Except WriteError Unit) := do
  let place ← Workbench.entity record
  match (← get).manager.schema entity with
  | .ok schema => onWorld (Callback.run ⟨place, schema, event⟩)
  | .error error => return .error error

/-- Takes the next timestamp of a context, and tells whether it is later than the last one. -/
def stamp (name : String) : Bench (Option Bool) := do
  let last := (← named name).last
  match ← runContext name FlushContext.nextStamp with
  | .error _ => failure
  | .ok none => return none
  | .ok (some stamp) =>
    putContext name { ← named name with last := some stamp }
    return some ((last.map fun last => decide (last < stamp)).getD true)

def flushContext (name : String) : Bench (Except WriteError Outcome) :=
  runContext name FlushContext.flush

/-! The journal. -/

def journal : Bench Journal := do
  (← get).world.backend.journal

def putJournalFile (file : JournalFile) : Bench Unit := do
  let journal ← journal
  changeWorld fun world =>
    { world with backend := { world.backend with journal := some { journal with file := file } } }

def changeJournalFile (change : JournalFile → JournalFile) : Bench Unit := do
  putJournalFile (change (← journal).file)

def reopenJournal : Bench (Except StoreError JournalFile) := do
  let (result, file) := (← journal).file.reopen
  putJournalFile file
  return result.map fun _ => file

end Workbench

end CqlMapper
