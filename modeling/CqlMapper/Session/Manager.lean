import CqlMapper.Consistency.Resolver
import CqlMapper.Session.Flush
import CqlMapper.Statement.Generator

/-!
The entity manager: it checks the options of a write, runs the pre interceptors, generates the
statements and puts them into a flush context with the levels they run at.
-/

namespace CqlMapper

inductive WriteKind where
  | insert | update | remove
  deriving DecidableEq, Inhabited

namespace WriteKind

def preEvent : WriteKind → Event
  | .insert => .prePersist
  | .update => .preUpdate
  | .remove => .preRemove

def postEvent : WriteKind → Event
  | .insert => .postPersist
  | .update => .postUpdate
  | .remove => .postRemove

end WriteKind

structure EntityManager where
  registry : Registry
  config : Config

namespace EntityManager

def resolver (manager : EntityManager) : Resolver :=
  Resolver.new manager.config manager.registry

def shown (manager : EntityManager) : String :=
  Text.shownPart "EntityManager" [
    ("registry", manager.registry.shown),
    ("config", manager.config.shown)]

def schema (manager : EntityManager) (entity : String) : Except WriteError EntitySchema :=
  match Keyed.get? manager.registry entity with
  | some schema => .ok schema
  | none => .error (.usage (.unknownEntity entity))

def optionFault? (schema : EntitySchema) (kind : WriteKind) (options : WriteOptions) :
    Option UsageFault :=
  if options.listener.isSome && !options.isConditional then some .idleListener
  else match options.serialLevel.filter fun level => !level.isSerial with
  | some level => some (.notSerial level)
  | none =>
    if kind = .insert ∧ !options.conditions.isEmpty then some .conditionsOnInsert
    else if kind = .update ∧ options.ifNotExists then some .ifNotExistsOnUpdate
    else if kind = .remove ∧ (options.isConditional || options.ttl.isSome) then
      some .conditionalRemove
    else if schema.isClusteredCounter && (options.ttl.isSome || options.timestamp.isSome) then
      some (.counterExpiry schema.name)
    else if schema.isClusteredCounter && options.isConditional then
      some (.conditionalCounter schema.name)
    else none

def checkOptions (schema : EntitySchema) (kind : WriteKind) (options : WriteOptions) :
    Except WriteError Unit :=
  match optionFault? schema kind options with
  | some fault => .error (.usage fault)
  | none => .ok ()

/-- In an ordered batch an operation has the next timestamp of the batch, unless it writes nothing
but counters. -/
def stamp (schema : EntitySchema) (options : WriteOptions) (context : FlushContext)
    (world : World) : Except WriteError WriteOptions × FlushContext × World :=
  if schema.isClusteredCounter then (.ok options, context, world)
  else
    match context.nextStamp world with
    | (.ok (some stamp), context, world) =>
      (.ok { options with timestamp := some stamp }, context, world)
    | (.ok none, context, world) => (.ok options, context, world)
    | (.error error, context, world) => (.error error, context, world)

/-- The level declared on a property only counts for a counter written outside a batch. -/
def askedLevel (options : WriteOptions) (isBatch : Bool) (statement : GeneratedStatement) :
    Option Level :=
  if statement.counter && !isBatch then options.level.or statement.propertyLevel
  else options.level

def pendingOf (manager : EntityManager) (schema : EntitySchema) (options : WriteOptions)
    (isBatch : Bool) (statement : GeneratedStatement) : PendingStatement where
  query := statement.write.query
  values := statement.write.values
  counter := statement.counter
  propertyLevel := statement.propertyLevel
  level := manager.resolver.write schema.table (askedLevel options isBatch statement)
  serialLevel := options.serialLevel.or manager.config.defaultSerial
  listener := options.listener

def enqueue (manager : EntityManager) (schema : EntitySchema) (options : WriteOptions)
    (statements : List GeneratedStatement) (context : FlushContext) : FlushContext :=
  context.pushAll (statements.map (manager.pendingOf schema options context.isBatch))

def statementsFor (manager : EntityManager) (schema : EntitySchema) (kind : WriteKind)
    (options : WriteOptions) (record : Record) : Except WriteError (List GeneratedStatement) :=
  match kind with
  | .insert => schema.insertStatements manager.config.insertStrategy record.subject options
  | .update => schema.updateStatements record.subject options
  | .remove => (schema.keyOf record.values).map fun key => schema.removeStatements key options

/-- The schema of a shared entity, once the options of the write are found in order. -/
def checkedSchema (manager : EntityManager) (kind : WriteKind) (entity : EntityRef)
    (options : WriteOptions) (world : World) : Except WriteError EntitySchema := do
  let record ← world.lock entity
  let schema ← manager.schema record.entity
  checkOptions schema kind options
  return schema

/-- Generates the statements of a shared entity, which is clean afterwards. -/
def generate (manager : EntityManager) (schema : EntitySchema) (kind : WriteKind)
    (options : WriteOptions) (entity : EntityRef) (world : World) :
    Except WriteError (List GeneratedStatement × World) := do
  let record ← world.lock entity
  let statements ← manager.statementsFor schema kind options record
  return (statements, world.putRecord entity record.markClean)

/-- Puts one write of an entity into a context: pre interceptors, statements, post interceptors. -/
def prepare (manager : EntityManager) (kind : WriteKind) (entity : EntityRef)
    (options : WriteOptions) (context : FlushContext) (world : World) :
    Except WriteError Unit × FlushContext × World :=
  match manager.checkedSchema kind entity options world with
  | .error error => (.error error, context, world)
  | .ok schema =>
    match stamp schema options context world with
    | (.error error, context, world) => (.error error, context, world)
    | (.ok options, context, world) =>
      match context.trigger entity schema kind.preEvent world with
      | (.error error, context, world) => (.error error, context, world)
      | (.ok (), context, world) =>
        match manager.generate schema kind options entity world with
        | .error error => (.error error, context, world)
        | .ok (statements, world) =>
          (manager.enqueue schema options statements context).trigger entity schema kind.postEvent
            world

def prepareRemoveById (manager : EntityManager) (entity : String) (key : List FieldValue)
    (options : WriteOptions) (context : FlushContext) (world : World) :
    Except WriteError Unit × FlushContext × World :=
  let admitted := do
    let schema ← manager.schema entity
    checkOptions schema .remove options
    return schema
  match admitted with
  | .error error => (.error error, context, world)
  | .ok schema =>
    match stamp schema options context world with
    | (.error error, context, world) => (.error error, context, world)
    | (.ok options, context, world) =>
      match schema.keyFrom key with
      | .error error => (.error error, context, world)
      | .ok key =>
        (.ok (), manager.enqueue schema options (schema.removeStatements key options) context,
          world)

def write (manager : EntityManager) (kind : WriteKind) (entity : EntityRef)
    (options : WriteOptions) (world : World) : Except WriteError Outcome × World :=
  match manager.prepare kind entity options .immediate world with
  | (.error error, _, world) => (.error error, world)
  | (.ok (), context, world) => context.run world

def removeById (manager : EntityManager) (entity : String) (key : List FieldValue)
    (options : WriteOptions) (world : World) : Except WriteError Outcome × World :=
  match manager.prepareRemoveById entity key options .immediate world with
  | (.error error, _, world) => (.error error, world)
  | (.ok (), context, world) => context.run world

end EntityManager

end CqlMapper
