import CqlMapper.Session.Manager
import CqlMapper.Proofs.Session.Callbacks
import CqlMapper.Proofs.Session.Gathering
import CqlMapper.Proofs.Statement.Parts

/-!
What the preparation of a write does to a flush context: nothing, or no more than a tick of its
clock, when it fails, and otherwise it adds the statements generated and the deferred callback.
-/

namespace CqlMapper

theorem WriteKind.isPost_postEvent (kind : WriteKind) : kind.postEvent.isPost = true := by
  cases kind <;> rfl

structure World.SameStore (world final : World) : Prop where
  backend : final.backend = world.backend
  tracing : final.tracing = world.tracing

namespace World.SameStore

theorem refl (world : World) : world.SameStore world :=
  ⟨rfl, rfl⟩

theorem trans {world middle final : World} (first : world.SameStore middle)
    (second : middle.SameStore final) : world.SameStore final :=
  ⟨second.backend.trans first.backend, second.tracing.trans first.tracing⟩

theorem executed {world final : World} (store : world.SameStore final) :
    final.executed = world.executed :=
  congrArg (·.store.executed) store.backend

end World.SameStore

namespace EntityManager

inductive Stamps (schema : EntitySchema) (options : WriteOptions) (context : FlushContext)
    (world : World) : Except WriteError WriteOptions → FlushContext → World → Prop
  | free (unordered : schema.isClusteredCounter = true ∨ context.mode ≠ .orderedBatch) :
      Stamps schema options context world (.ok options) context world
  | ticked {now : Int64} (plain : schema.isClusteredCounter = false)
      (ordered : context.mode = .orderedBatch) (reading : world.wall.now = .ok now) :
      Stamps schema options context world
        (.ok { options with timestamp := some (context.clock.next now) })
        { context with clock := ⟨context.clock.next now⟩ }
        { world with wall := world.wall.advance }
  | timeless {error : MappingError} (plain : schema.isClusteredCounter = false)
      (ordered : context.mode = .orderedBatch) (reading : world.wall.now = .error error) :
      Stamps schema options context world (.error (.mapping error)) context
        { world with wall := world.wall.advance }

theorem stamp_stamps (schema : EntitySchema) (options : WriteOptions) (context : FlushContext)
    (world : World) :
    Stamps schema options context world (stamp schema options context world).1
      (stamp schema options context world).2.1 (stamp schema options context world).2.2 := by
  unfold stamp
  cases clustered : schema.isClusteredCounter with
  | true => exact .free (Or.inl clustered)
  | false =>
      obtain ⟨mode, _, _, _, _, _, _, clock⟩ := context
      unfold FlushContext.nextStamp
      cases mode with
      | immediate => exact .free (Or.inr nofun)
      | batch => exact .free (Or.inr nofun)
      | orderedBatch =>
          unfold StampClock.tick
          cases reading : world.wall.now with
          | error error => exact .timeless clustered rfl reading
          | ok now => exact .ticked clustered rfl reading

/-- A generated statement as it waits in a context. The level declared on a property only counts
outside a batch. -/
structure Pends (manager : EntityManager) (schema : EntitySchema) (options : WriteOptions)
    (isBatch : Bool) (statement : GeneratedStatement) (pending : PendingStatement) : Prop where
  query : pending.query = statement.write.query
  values : pending.values = statement.write.values
  counter : pending.counter = statement.counter
  propertyLevel : pending.propertyLevel = statement.propertyLevel
  level : pending.level = manager.resolver.write schema.table
    (if statement.counter = true ∧ isBatch = false then options.level.or statement.propertyLevel
      else options.level)
  serialLevel : pending.serialLevel = options.serialLevel.or manager.config.defaultSerial
  listener : pending.listener = options.listener

structure Admits (manager : EntityManager) (kind : WriteKind) (entity : EntityRef)
    (options : WriteOptions) (world : World) (record : Record) (schema : EntitySchema) : Prop where
  locked : world.lock entity = .ok record
  known : manager.schema record.entity = .ok schema
  faultless : optionFault? schema kind options = none

inductive Prepares (manager : EntityManager) (kind : WriteKind) (entity : EntityRef)
    (options : WriteOptions) (context : FlushContext) (world : World) :
    Except WriteError Unit → FlushContext → World → Prop
  | refused {error : WriteError}
      (checked : manager.checkedSchema kind entity options world = .error error) :
      Prepares manager kind entity options context world (.error error) context world
  | timeless {record : Record} {schema : EntitySchema} {error : WriteError}
      {stamped : FlushContext} {ticked : World}
      (admits : manager.Admits kind entity options world record schema)
      (stamps : Stamps schema options context world (.error error) stamped ticked) :
      Prepares manager kind entity options context world (.error error) stamped ticked
  | ungenerated {record : Record} {schema : EntitySchema} {asked : WriteOptions}
      {stamped : FlushContext} {ticked final : World} {error : WriteError}
      (admits : manager.Admits kind entity options world record schema)
      (stamps : Stamps schema options context world (.ok asked) stamped ticked)
      (fails : manager.statementsFor schema kind asked (schema.intercept kind.preEvent record) =
        .error error)
      (store : ticked.SameStore final) :
      Prepares manager kind entity options context world (.error error) stamped final
  | queued {record : Record} {schema : EntitySchema} {asked : WriteOptions}
      {stamped queued : FlushContext} {ticked final : World}
      {statements : List GeneratedStatement}
      (admits : manager.Admits kind entity options world record schema)
      (stamps : Stamps schema options context world (.ok asked) stamped ticked)
      (generated : manager.statementsFor schema kind asked
        (schema.intercept kind.preEvent record) = .ok statements)
      (adds : context.Adds queued
        (statements.map (manager.pendingOf schema asked context.isBatch))
        (FlushContext.deferredOn entity schema kind.postEvent))
      (clock : queued.clock = stamped.clock)
      (clean : final.lock entity = .ok (schema.intercept kind.preEvent record).markClean)
      (store : ticked.SameStore final) :
      Prepares manager kind entity options context world (.ok ()) queued final

variable {manager : EntityManager} {kind : WriteKind} {entity : EntityRef} {options : WriteOptions}
  {world : World} {schema : EntitySchema} {record : Record}

theorem pends_iff {isBatch : Bool} {statement : GeneratedStatement} {pending : PendingStatement} :
    manager.Pends schema options isBatch statement pending ↔
      manager.pendingOf schema options isBatch statement = pending := by
  have asked : askedLevel options isBatch statement =
      if statement.counter = true ∧ isBatch = false then options.level.or statement.propertyLevel
      else options.level := by
    simp [askedLevel]
  constructor
  · intro pends
    obtain ⟨query, values, counter, propertyLevel, level, serialLevel, listener⟩ := pending
    obtain ⟨rfl, rfl, rfl, rfl, rfl, rfl, rfl⟩ := pends
    rw [pendingOf, asked]
  · rintro rfl
    exact ⟨rfl, rfl, rfl, rfl, congrArg (manager.resolver.write schema.table) asked, rfl, rfl⟩

theorem forall₂_pends_iff {isBatch : Bool} {statements : List GeneratedStatement}
    {queued : List PendingStatement} :
    List.Forall₂ (manager.Pends schema options isBatch) statements queued ↔
      statements.map (manager.pendingOf schema options isBatch) = queued := by
  have same : manager.Pends schema options isBatch = fun statement pending =>
      manager.pendingOf schema options isBatch statement = pending := by
    funext statement pending
    exact propext pends_iff
  rw [same, ← List.forall₂_map_left_iff (R := Eq), List.forall₂_eq_eq_eq]

theorem checkOptions_ok :
    checkOptions schema kind options = .ok () ↔ optionFault? schema kind options = none := by
  unfold checkOptions
  cases optionFault? schema kind options <;> simp

theorem checkedSchema_ok (checked : manager.checkedSchema kind entity options world = .ok schema) :
    ∃ record, manager.Admits kind entity options world record schema := by
  obtain ⟨record, locked, rest⟩ := Outcome.bind_eq_ok.mp checked
  obtain ⟨known, found, remaining⟩ := Outcome.bind_eq_ok.mp rest
  obtain ⟨_, options, whole⟩ := Outcome.bind_eq_ok.mp remaining
  cases whole
  exact ⟨record, locked, found, checkOptions_ok.mp options⟩

theorem Admits.checked (admits : manager.Admits kind entity options world record schema) :
    manager.checkedSchema kind entity options world = .ok schema := by
  simp [checkedSchema, admits.locked, admits.known, checkOptions_ok.mpr admits.faultless, bind,
    Except.bind, pure, Except.pure]

theorem trigger_pre {event : Event} (pre : event.isPost = false)
    (locked : world.lock entity = .ok record) (schema : EntitySchema) (context : FlushContext) :
    ∃ after, context.trigger entity schema event world = (.ok (), context, after) ∧
      after.lock entity = .ok (schema.intercept event record) ∧ world.SameStore after := by
  unfold FlushContext.trigger
  rw [pre]
  cases intercepts : schema.interceptsOn event with
  | false =>
      refine ⟨world, rfl, ?_, rfl, rfl⟩
      rw [EntitySchema.intercept_of_not intercepts]
      exact locked
  | true =>
      have ran := Callback.run_ok ⟨entity, schema, event⟩ ⟨record, locked⟩
      have left := World.lock_fire ⟨entity, schema, event⟩ locked
      simp only [Callback.leaves, pre] at left
      refine ⟨Callback.fire world ⟨entity, schema, event⟩, by simp [ran], left, ?_⟩
      simp only [Callback.fire, Callback.run, locked]
      exact ⟨rfl, rfl⟩

theorem trigger_post {event : Event} (post : event.isPost = true) (entity : EntityRef)
    (schema : EntitySchema) (context : FlushContext) (world : World) :
    context.trigger entity schema event world =
      (.ok (), context.queue entity schema event, world) :=
  if_pos post

theorem Stamps.adds {context stamped : FlushContext} {result : Except WriteError WriteOptions}
    {ticked : World} (stamps : Stamps schema options context world result stamped ticked) :
    context.Adds stamped [] [] := by
  cases stamps with
  | free | timeless => exact .refl context
  | ticked => exact ⟨⟨rfl, rfl, rfl, rfl⟩, by simp, by simp, by simp⟩

/-- An enqueuing sees the mode of the context as it was before the stamp. -/
theorem Stamps.adds_enqueue {context stamped : FlushContext}
    {result : Except WriteError WriteOptions} {ticked : World}
    (stamps : Stamps schema options context world result stamped ticked) (manager : EntityManager)
    (asked : WriteOptions) (statements : List GeneratedStatement) :
    context.Adds (manager.enqueue schema asked statements stamped)
      (statements.map (manager.pendingOf schema asked context.isBatch)) [] := by
  have mode : stamped.isBatch = context.isBatch := by
    rw [FlushContext.isBatch, stamps.adds.mode, FlushContext.isBatch]
  rw [enqueue, mode]
  exact stamps.adds.trans (stamped.adds_pushAll _)

theorem Stamps.lock {context stamped : FlushContext} {result : Except WriteError WriteOptions}
    {ticked : World} (stamps : Stamps schema options context world result stamped ticked)
    (entity : EntityRef) : ticked.lock entity = world.lock entity := by
  cases stamps <;> rfl

theorem generate_locked (locked : world.lock entity = .ok record) :
    manager.generate schema kind options entity world =
      (manager.statementsFor schema kind options record).map fun statements =>
        (statements, world.putRecord entity record.markClean) := by
  rw [generate, locked]
  cases generated : manager.statementsFor schema kind options record <;>
    simp [bind, Except.bind, generated, pure, Except.pure, Except.map]

theorem prepare_prepares (manager : EntityManager) (kind : WriteKind) (entity : EntityRef)
    (options : WriteOptions) (context : FlushContext) (world : World) :
    Prepares manager kind entity options context world
      (manager.prepare kind entity options context world).1
      (manager.prepare kind entity options context world).2.1
      (manager.prepare kind entity options context world).2.2 := by
  unfold prepare
  cases checked : manager.checkedSchema kind entity options world with
  | error error => exact .refused checked
  | ok schema =>
      obtain ⟨record, admits⟩ := checkedSchema_ok checked
      have stamps := stamp_stamps schema options context world
      have pre : kind.preEvent.isPost = false := by cases kind <;> rfl
      dsimp only
      rcases given : stamp schema options context world with ⟨error | asked, stamped, ticked⟩
      · rw [given] at stamps
        exact .timeless admits stamps
      · rw [given] at stamps
        have locked := (stamps.lock entity).trans admits.locked
        obtain ⟨seen, triggered, left, store⟩ := trigger_pre pre locked schema stamped
        dsimp only
        rw [triggered]
        cases generated : manager.statementsFor schema kind asked
            (schema.intercept kind.preEvent record) with
        | error error =>
            simp only [generate_locked left, generated, Except.map]
            exact .ungenerated admits stamps generated store
        | ok statements =>
            simp only [generate_locked left, generated, Except.map,
              trigger_post kind.isPost_postEvent]
            have adds := (stamps.adds_enqueue manager asked statements).trans
              (FlushContext.adds_queue _ entity schema kind.postEvent)
            rw [List.append_nil] at adds
            refine .queued admits stamps generated adds ?_ (World.lock_putRecord left _)
              ⟨store.backend, store.tracing⟩
            rw [FlushContext.clock_queue]
            exact FlushContext.clock_pushAll stamped _

theorem Stamps.sameStore {context stamped : FlushContext} {result : Except WriteError WriteOptions}
    {ticked : World} (stamps : Stamps schema options context world result stamped ticked) :
    world.SameStore ticked := by
  cases stamps <;> exact ⟨rfl, rfl⟩

theorem statementsFor_generate (manager : EntityManager) (schema : EntitySchema) (kind : WriteKind)
    (options : WriteOptions) (record : Record) :
    ∃ request : Request,
      manager.statementsFor schema kind options record = request.generate schema options := by
  cases kind with
  | insert => exact ⟨.insert manager.config.insertStrategy record.subject, rfl⟩
  | update => exact ⟨.change record.values record.dirtyChanges, rfl⟩
  | remove => exact ⟨.remove record.values, rfl⟩

end EntityManager

inductive Operation where
  | write (kind : WriteKind) (entity : EntityRef) (options : WriteOptions)
  | removeById (entity : String) (key : List FieldValue) (options : WriteOptions)

namespace Operation

open EntityManager

def kind : Operation → WriteKind
  | .write kind _ _ => kind
  | .removeById _ _ _ => .remove

def options : Operation → WriteOptions
  | .write _ _ options | .removeById _ _ options => options

def entityName (operation : Operation) (world : World) : Except WriteError String :=
  match operation with
  | .write _ entity _ => world.entityName entity
  | .removeById entity _ _ => .ok entity

def admitted (operation : Operation) (manager : EntityManager) (world : World) :
    Except WriteError EntitySchema :=
  match operation with
  | .write kind entity options => manager.checkedSchema kind entity options world
  | .removeById entity _ options => do
    let schema ← manager.schema entity
    checkOptions schema .remove options
    return schema

def prepare (operation : Operation) (manager : EntityManager) (context : FlushContext)
    (world : World) : Except WriteError Unit × FlushContext × World :=
  match operation with
  | .write kind entity options => manager.prepare kind entity options context world
  | .removeById entity key options => manager.prepareRemoveById entity key options context world

def generation (operation : Operation) (manager : EntityManager) (schema : EntitySchema)
    (asked : WriteOptions) (world : World) : Except WriteError (List GeneratedStatement) :=
  match operation with
  | .write kind entity _ => do
    let record ← world.lock entity
    let seen := schema.intercept kind.preEvent record
    match kind with
    | .insert => schema.insertStatements manager.config.insertStrategy seen.subject asked
    | .update => schema.updateStatements seen.subject asked
    | .remove => (schema.keyOf seen.values).map fun key => schema.removeStatements key asked
  | .removeById _ key _ => (schema.keyFrom key).map fun key => schema.removeStatements key asked

/-- The statements of an operation, in order, for the options that it is stamped with. -/
inductive Generates (operation : Operation) (manager : EntityManager) (context : FlushContext)
    (world : World) : EntitySchema → WriteOptions → List GeneratedStatement → Prop
  | intro {name : String} {schema : EntitySchema} {asked : WriteOptions} {stamped : FlushContext}
      {ticked : World} {statements : List GeneratedStatement}
      (named : operation.entityName world = .ok name)
      (known : Keyed.get? manager.registry name = some schema)
      (faultless : optionFault? schema operation.kind operation.options = none)
      (stamps : Stamps schema operation.options context world (.ok asked) stamped ticked)
      (generated : operation.generation manager schema asked world = .ok statements) :
      Generates operation manager context world schema asked statements

def postponed (operation : Operation) (schema : EntitySchema) : List Callback :=
  match operation with
  | .write kind entity _ => FlushContext.deferredOn entity schema kind.postEvent
  | .removeById _ _ _ => []

inductive Ends (operation : Operation) (manager : EntityManager) (context : FlushContext)
    (world : World) : Except WriteError Unit → FlushContext → World → Prop
  | unadmitted {error : WriteError} (refuses : operation.admitted manager world = .error error) :
      Ends operation manager context world (.error error) context world
  | timeless {schema : EntitySchema} {error : WriteError} {stamped : FlushContext} {ticked : World}
      (admits : operation.admitted manager world = .ok schema)
      (stamps : Stamps schema operation.options context world (.error error) stamped ticked) :
      Ends operation manager context world (.error error) stamped ticked
  | ungenerated {schema : EntitySchema} {asked : WriteOptions} {error : WriteError}
      {stamped : FlushContext} {ticked final : World}
      (admits : operation.admitted manager world = .ok schema)
      (stamps : Stamps schema operation.options context world (.ok asked) stamped ticked)
      (fails : operation.generation manager schema asked world = .error error)
      (store : ticked.SameStore final) :
      Ends operation manager context world (.error error) stamped final
  | queued {schema : EntitySchema} {asked : WriteOptions} {stamped queued : FlushContext}
      {ticked final : World} {statements : List GeneratedStatement}
      (admits : operation.admitted manager world = .ok schema)
      (stamps : Stamps schema operation.options context world (.ok asked) stamped ticked)
      (generated : operation.generation manager schema asked world = .ok statements)
      (adds : context.Adds queued
        (statements.map (manager.pendingOf schema asked context.isBatch))
        (operation.postponed schema))
      (clock : queued.clock = stamped.clock) (store : ticked.SameStore final) :
      Ends operation manager context world (.ok ()) queued final

inductive Queues (operation : Operation) (manager : EntityManager) (context : FlushContext)
    (world : World) : Except WriteError Unit → FlushContext → World → Prop
  | refused {error : WriteError} :
      Queues operation manager context world (.error error) context world
  | failed {schema : EntitySchema} {error : WriteError} {result : Except WriteError WriteOptions}
      {stamped : FlushContext} {ticked final : World}
      (stamps : Stamps schema operation.options context world result stamped ticked)
      (store : ticked.SameStore final) :
      Queues operation manager context world (.error error) stamped final
  | queued {schema : EntitySchema} {request : Request} {asked : WriteOptions}
      {stamped queued : FlushContext} {ticked final : World} {statements : List GeneratedStatement}
      {callbacks : List Callback}
      (admits : operation.admitted manager world = .ok schema)
      (stamps : Stamps schema operation.options context world (.ok asked) stamped ticked)
      (generated : request.generate schema asked = .ok statements)
      (adds : context.Adds queued
        (statements.map (manager.pendingOf schema asked context.isBatch)) callbacks)
      (post : ∀ callback ∈ callbacks, callback.event.isPost = true)
      (clock : queued.clock = stamped.clock) (store : ticked.SameStore final) :
      Queues operation manager context world (.ok ()) queued final

variable {manager : EntityManager} {world final : World} {context after : FlushContext}

theorem admitted_eq (operation : Operation) (manager : EntityManager) (world : World) :
    operation.admitted manager world = do
      let name ← operation.entityName world
      let schema ← manager.schema name
      checkOptions schema operation.kind operation.options
      return schema := by
  cases operation with
  | write kind entity options =>
      simp only [admitted, checkedSchema, entityName, World.entityName]
      cases world.lock entity <;> rfl
  | removeById entity key options => rfl

theorem admitted_ok {operation : Operation} {schema : EntitySchema}
    (admits : operation.admitted manager world = .ok schema) :
    ∃ name, operation.entityName world = .ok name ∧
      Keyed.get? manager.registry name = some schema ∧
      optionFault? schema operation.kind operation.options = none := by
  rw [admitted_eq] at admits
  obtain ⟨name, named, rest⟩ := Outcome.bind_eq_ok.mp admits
  obtain ⟨known, found, remaining⟩ := Outcome.bind_eq_ok.mp rest
  obtain ⟨_, checked, whole⟩ := Outcome.bind_eq_ok.mp remaining
  cases whole
  refine ⟨name, named, ?_, checkOptions_ok.mp checked⟩
  unfold EntityManager.schema at found
  cases entry : Keyed.get? manager.registry name with
  | none => simp [entry] at found
  | some held => simpa [entry] using found

theorem generates_of_admitted {operation : Operation} {schema : EntitySchema}
    {asked : WriteOptions} {stamped : FlushContext} {ticked : World}
    {statements : List GeneratedStatement}
    (admits : operation.admitted manager world = .ok schema)
    (stamps : Stamps schema operation.options context world (.ok asked) stamped ticked)
    (generated : operation.generation manager schema asked world = .ok statements) :
    operation.Generates manager context world schema asked statements := by
  obtain ⟨name, named, known, faultless⟩ := admitted_ok admits
  exact .intro named known faultless stamps generated

theorem generation_write {kind : WriteKind} {entity : EntityRef} {record : Record}
    (locked : world.lock entity = .ok record) (options asked : WriteOptions)
    (schema : EntitySchema) :
    (write kind entity options).generation manager schema asked world =
      manager.statementsFor schema kind asked (schema.intercept kind.preEvent record) := by
  rw [generation, locked]
  cases kind <;> rfl

theorem ends_of_prepares {kind : WriteKind} {entity : EntityRef} {options : WriteOptions}
    {result : Except WriteError Unit}
    (prepares : Prepares manager kind entity options context world result after final) :
    Ends (.write kind entity options) manager context world result after final := by
  cases prepares with
  | refused checked => exact .unadmitted checked
  | timeless admits stamps => exact .timeless admits.checked stamps
  | ungenerated admits stamps fails store =>
      have failed := (generation_write admits.locked options _ _).trans fails
      exact .ungenerated admits.checked stamps failed store
  | queued admits stamps generated adds clock clean store =>
      have made := (generation_write admits.locked options _ _).trans generated
      exact .queued admits.checked stamps made adds clock store

theorem ends_removeById (manager : EntityManager) (entity : String) (key : List FieldValue)
    (options : WriteOptions) (context : FlushContext) (world : World) :
    Ends (.removeById entity key options) manager context world
      (manager.prepareRemoveById entity key options context world).1
      (manager.prepareRemoveById entity key options context world).2.1
      (manager.prepareRemoveById entity key options context world).2.2 := by
  unfold prepareRemoveById
  extract_lets found
  have admits : (removeById entity key options).admitted manager world = found := rfl
  clear_value found
  cases found with
  | error error => exact .unadmitted admits
  | ok schema =>
      have stamps := stamp_stamps schema options context world
      dsimp only
      rcases given : stamp schema options context world with ⟨error | asked, stamped, ticked⟩
      · rw [given] at stamps
        exact .timeless admits stamps
      · rw [given] at stamps
        have generates : (removeById entity key options).generation manager schema asked world =
            (schema.keyFrom key).map fun key => schema.removeStatements key asked := rfl
        dsimp only
        cases encoded : schema.keyFrom key with
        | error error =>
            rw [encoded] at generates
            exact .ungenerated admits stamps generates (.refl _)
        | ok values =>
            rw [encoded] at generates
            exact .queued admits stamps generates (stamps.adds_enqueue manager asked _)
              (FlushContext.clock_pushAll stamped _) (.refl _)

theorem prepare_ends (operation : Operation) (manager : EntityManager) (context : FlushContext)
    (world : World) :
    operation.Ends manager context world (operation.prepare manager context world).1
      (operation.prepare manager context world).2.1
      (operation.prepare manager context world).2.2 := by
  cases operation with
  | write kind entity options =>
      exact ends_of_prepares (manager.prepare_prepares kind entity options context world)
  | removeById entity key options =>
      exact ends_removeById manager entity key options context world

theorem generation_generate {operation : Operation} {schema : EntitySchema} {asked : WriteOptions}
    {statements : List GeneratedStatement}
    (generated : operation.generation manager schema asked world = .ok statements) :
    ∃ request : Request, request.generate schema asked = .ok statements := by
  cases operation with
  | write kind entity options =>
      obtain ⟨record, locked, _⟩ := Outcome.bind_eq_ok.mp generated
      obtain ⟨request, same⟩ := statementsFor_generate manager schema kind asked
        (schema.intercept kind.preEvent record)
      rw [generation_write locked] at generated
      exact ⟨request, same.symm.trans generated⟩
  | removeById entity key options => exact ⟨.removeAt key, generated⟩

theorem isPost_postponed (operation : Operation) (schema : EntitySchema) :
    ∀ callback ∈ operation.postponed schema, callback.event.isPost = true := by
  cases operation with
  | write kind entity options =>
      exact FlushContext.isPost_deferredOn entity kind.isPost_postEvent
  | removeById entity key options => exact List.forall_mem_nil _

theorem Ends.queues {operation : Operation} {result : Except WriteError Unit}
    (ends : operation.Ends manager context world result after final) :
    operation.Queues manager context world result after final := by
  cases ends with
  | unadmitted refuses => exact .refused
  | timeless admits stamps => exact .failed stamps (.refl _)
  | ungenerated admits stamps fails store => exact .failed stamps store
  | queued admits stamps generated adds clock store =>
      obtain ⟨request, made⟩ := generation_generate generated
      exact .queued admits stamps made adds (operation.isPost_postponed _) clock store

theorem prepare_queues (operation : Operation) (manager : EntityManager) (context : FlushContext)
    (world : World) :
    ∃ result after final, operation.prepare manager context world = (result, after, final) ∧
      operation.Queues manager context world result after final :=
  ⟨_, _, _, rfl, (operation.prepare_ends manager context world).queues⟩

theorem Queues.sameStore {operation : Operation} {result : Except WriteError Unit}
    (queues : Queues operation manager context world result after final) :
    world.SameStore final := by
  cases queues with
  | refused => exact .refl world
  | failed stamps store => exact stamps.sameStore.trans store
  | queued admits stamps generated adds post clock store => exact stamps.sameStore.trans store

end Operation

end CqlMapper
