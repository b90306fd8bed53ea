import CqlMapper.Proofs.Record.Tracking
import CqlMapper.Proofs.Session.Envelopes
import CqlMapper.Proofs.Session.Ordering

/-!
The same operations carried out one by one and together in a batch. Where no interceptors listen and
the store accepts everything, both send the same statements in the same order, the batch its
counters last, and an operation that fails does so either way, with the same error and nothing sent.
-/

namespace CqlMapper

namespace Record

theorem entity_note (record : Record) (property : String) (change : Change) :
    (record.note property change).entity = record.entity := by
  unfold note
  split
  · rfl
  · split <;> rfl

theorem entity_apply {record next : Record} {mutation : Mutation}
    (applied : record.apply mutation = .ok next) : next.entity = record.entity := by
  cases mutation with
  | set | increment | clear | markClean =>
      cases applied
      rfl
  | listAppend | listPrepend | listSet | listRemoveAt | setAdd | setRemove | mapPut | mapRemove =>
      obtain ⟨found, _, rfl⟩ := Outcome.map_eq_ok.mp applied
      exact entity_note _ _ _

theorem entity_attempt (record : Record) (mutation : Mutation) :
    (record.attempt mutation).entity = record.entity := by
  unfold attempt
  cases applied : record.apply mutation with
  | error => rfl
  | ok next => exact entity_apply applied

end Record

namespace World

variable {world other : World}

def Accepting (world : World) : Prop :=
  ∀ index, Answer.Accepts (world.answers index)

theorem Settles.accepting {exchanges : List Exchange} (settles : world.Settles exchanges other)
    (accepting : world.Accepting) : other.Accepting := by
  intro index
  rw [settles.answers]
  exact accepting (index + exchanges.length)

theorem SameStore.accepting (store : world.SameStore other) (accepting : world.Accepting) :
    other.Accepting := by
  unfold Accepting answers
  rw [store.backend]
  exact accepting

def update (world : World) (entity : EntityRef) (change : Record → Record) : World :=
  match world.lock entity with
  | .ok record => world.putRecord entity (change record)
  | .error _ => world

theorem sameStore_update (world : World) (entity : EntityRef) (change : Record → Record) :
    world.SameStore (world.update entity change) := by
  unfold update
  split
  · exact ⟨rfl, rfl⟩
  · exact .refl world

theorem lock_putRecord_of_ne {entity index : EntityRef} (apart : entity ≠ index)
    (record : Record) : (world.putRecord entity record).lock index = world.lock index := by
  unfold lock cell?
  simp [putRecord, apart]

theorem entityName_update {change : Record → Record}
    (same : ∀ record, (change record).entity = record.entity) (world : World)
    (entity other : EntityRef) :
    (world.update entity change).entityName other = world.entityName other := by
  unfold update
  cases locked : world.lock entity with
  | error error => rfl
  | ok record =>
      rw [entityName, entityName]
      by_cases own : entity = other
      · subst other
        rw [lock_putRecord locked, locked]
        exact congrArg Except.ok (same record)
      · rw [lock_putRecord_of_ne own]

theorem lock_congr (same : other.cells = world.cells) (entity : EntityRef) :
    other.lock entity = world.lock entity := by
  rw [lock, cell?, same]
  rfl

theorem entityName_congr (same : other.cells = world.cells) (entity : EntityRef) :
    other.entityName entity = world.entityName entity :=
  congrArg (·.map (·.entity)) (lock_congr same entity)

theorem cells_update_congr (same : other.cells = world.cells) (entity : EntityRef)
    (change : Record → Record) :
    (other.update entity change).cells = (world.update entity change).cells := by
  rw [update, update, lock_congr same]
  cases world.lock entity with
  | error error => exact same
  | ok record => simp only [putRecord, same]

end World

namespace EntityManager

theorem stamp_unordered {context : FlushContext} (unordered : context.mode ≠ .orderedBatch)
    (schema : EntitySchema) (options : WriteOptions) (world : World) :
    stamp schema options context world = (.ok options, context, world) := by
  have stamps := stamp_stamps schema options context world
  generalize stamp schema options context world = stamped at stamps
  obtain ⟨result, after, final⟩ := stamped
  cases stamps with
  | free => rfl
  | ticked plain ordered | timeless plain ordered => exact absurd ordered unordered

end EntityManager

namespace Operation

open EntityManager

/-- An operation that leaves all levels to the session, on an entity without interceptors. -/
structure Plain (operation : Operation) (manager : EntityManager) (world : World) : Prop where
  level : operation.options.level = none
  serialLevel : operation.options.serialLevel = none
  listener : operation.options.listener = none
  idle : ∀ name schema, operation.entityName world = .ok name →
    Keyed.get? manager.registry name = some schema → schema.interceptors = []

def made (operation : Operation) (manager : EntityManager) (world : World) :
    Except WriteError (List GeneratedStatement) := do
  let schema ← operation.admitted manager world
  operation.generation manager schema operation.options world

def settled (operation : Operation) (manager : EntityManager) (world : World) : World :=
  match operation.made manager world, operation with
  | .ok _, .write _ entity _ => world.update entity .markClean
  | _, _ => world

variable {operation : Operation} {manager : EntityManager} {context : FlushContext}
  {world other : World}

theorem entityName_settled (operation : Operation) (manager : EntityManager) (world : World)
    (entity : EntityRef) :
    (operation.settled manager world).entityName entity = world.entityName entity := by
  unfold settled
  split
  · have kept (record : Record) : record.markClean.entity = record.entity := rfl
    exact World.entityName_update kept world _ entity
  · rfl

theorem sameStore_settled (operation : Operation) (manager : EntityManager) (world : World) :
    world.SameStore (operation.settled manager world) := by
  unfold settled
  split
  · exact world.sameStore_update _ _
  · exact .refl world

theorem Plain.of_names (plain : operation.Plain manager world)
    (names : ∀ entity, other.entityName entity = world.entityName entity) :
    operation.Plain manager other := by
  refine ⟨plain.level, plain.serialLevel, plain.listener, ?_⟩
  have same : operation.entityName other = operation.entityName world := by
    cases operation with
    | write kind entity options => exact names entity
    | removeById => rfl
  rw [same]
  exact plain.idle

theorem made_congr (same : other.cells = world.cells) (operation : Operation)
    (manager : EntityManager) : operation.made manager other = operation.made manager world := by
  cases operation with
  | write kind entity options =>
      simp only [made, admitted, checkedSchema, generation, World.lock_congr same]
  | removeById => rfl

theorem cells_settled_congr (same : other.cells = world.cells) (operation : Operation)
    (manager : EntityManager) :
    (operation.settled manager other).cells = (operation.settled manager world).cells := by
  unfold settled
  rw [made_congr same]
  split
  · exact World.cells_update_congr same _ _
  · exact same

theorem made_of_refused {error : WriteError}
    (refuses : operation.admitted manager world = .error error) :
    operation.made manager world = .error error := by
  rw [made, refuses]
  rfl

theorem made_of_admitted {schema : EntitySchema}
    (admits : operation.admitted manager world = .ok schema) :
    operation.made manager world =
      operation.generation manager schema operation.options world := by
  rw [made, admits]
  rfl

theorem made_write {kind : WriteKind} {entity : EntityRef} {options : WriteOptions}
    {record : Record} {schema : EntitySchema}
    (admits : manager.Admits kind entity options world record schema)
    (idle : schema.interceptors = []) :
    (write kind entity options).made manager world =
      manager.statementsFor schema kind options record := by
  have unseen : schema.intercept kind.preEvent record = record := by
    simp [EntitySchema.intercept, EntitySchema.interceptorsFor, idle]
  have admitted : (write kind entity options).admitted manager world = .ok schema := admits.checked
  rw [made_of_admitted admitted, generation_write admits.locked, unseen]
  rfl

/-- Without interceptors an operation either fails and leaves everything as it was, or puts what it
generates into the context and leaves its entity clean. -/
theorem Plain.prepare (plain : operation.Plain manager world)
    (unordered : context.mode ≠ .orderedBatch) :
    (∃ error, operation.made manager world = .error error ∧
      operation.prepare manager context world = (.error error, context, world)) ∨
    ∃ schema statements, operation.made manager world = .ok statements ∧
      operation.prepare manager context world =
        (.ok (), manager.enqueue schema operation.options statements context,
          operation.settled manager world) := by
  cases operation with
  | write kind entity options =>
      simp only [Operation.prepare, EntityManager.prepare]
      cases checked : manager.checkedSchema kind entity options world with
      | error error => exact Or.inl ⟨error, made_of_refused checked, rfl⟩
      | ok schema =>
          obtain ⟨record, admits⟩ := checkedSchema_ok checked
          have admitted : (write kind entity options).admitted manager world = .ok schema := checked
          obtain ⟨name, named, known, _⟩ := admitted_ok admitted
          have idle := plain.idle name schema named known
          have generates := made_write admits idle
          simp only [stamp_unordered unordered, FlushContext.trigger_idle idle,
            generate_locked admits.locked]
          rw [generates]
          cases generated : manager.statementsFor schema kind options record with
          | error error => exact Or.inl ⟨error, rfl, rfl⟩
          | ok statements =>
              rw [generated] at generates
              refine Or.inr ⟨schema, statements, rfl, ?_⟩
              simp only [settled, generates, World.update, admits.locked]
              rfl
  | removeById entity key options =>
      simp only [Operation.prepare, prepareRemoveById]
      cases found : (removeById entity key options).admitted manager world with
      | error error =>
          simp only [admitted] at found
          rw [found]
          exact Or.inl ⟨error, made_of_refused found, rfl⟩
      | ok schema =>
          have generates : (removeById entity key options).made manager world =
              (schema.keyFrom key).map fun key => schema.removeStatements key options :=
            made_of_admitted found
          simp only [admitted] at found
          rw [found, generates]
          simp only [stamp_unordered unordered]
          cases encoded : schema.keyFrom key with
          | error error => exact Or.inl ⟨error, rfl, rfl⟩
          | ok values =>
              refine Or.inr ⟨schema, _, rfl, ?_⟩
              rw [encoded] at generates
              simp only [settled, generates, Except.map]
              rfl

end Operation

inductive Step where
  | operation (operation : Operation)
  | mutate (entity : EntityRef) (mutation : Mutation)

def callAll (manager : EntityManager) :
    List Step → World → List (Except WriteError Outcome) × World
  | [], world => ([], world)
  | .mutate entity mutation :: rest, world =>
    callAll manager rest (world.update entity (·.attempt mutation))
  | .operation operation :: rest, world =>
    let (result, world) := operation.call manager world
    let (results, world) := callAll manager rest world
    (result :: results, world)

def joinAll (batch : Batch) : List Step → World → List (Except WriteError Unit) × Batch × World
  | [], world => ([], batch, world)
  | .mutate entity mutation :: rest, world =>
    joinAll batch rest (world.update entity (·.attempt mutation))
  | .operation operation :: rest, world =>
    let (result, batch, world) := batch.perform operation.inBatch world
    let (results, batch, world) := joinAll batch rest world
    (result :: results, batch, world)

def generateAll (manager : EntityManager) :
    List Step → World → List (Except WriteError (List GeneratedStatement)) × World
  | [], world => ([], world)
  | .mutate entity mutation :: rest, world =>
    generateAll manager rest (world.update entity (·.attempt mutation))
  | .operation operation :: rest, world =>
    let (others, final) := generateAll manager rest (operation.settled manager world)
    (operation.made manager world :: others, final)

def AllPlain (manager : EntityManager) (steps : List Step) (world : World) : Prop :=
  ∀ operation, .operation operation ∈ steps → operation.Plain manager world

def statementsOf (made : Except WriteError (List GeneratedStatement)) : List GeneratedStatement :=
  match made with
  | .ok statements => statements
  | .error _ => []

def inTurn (made : Except WriteError (List GeneratedStatement)) : List GeneratedStatement :=
  (statementsOf made).filter (fun statement => !statement.counter) ++
    (statementsOf made).filter fun statement => statement.counter

def GeneratedStatement.content (statement : GeneratedStatement) : String × List CqlValue :=
  (statement.write.query, statement.write.values)

def PendingStatement.content (pending : PendingStatement) : String × List CqlValue :=
  (pending.query, pending.values)

def BoundStatement.content (statement : BoundStatement) : String × List CqlValue :=
  (statement.query, statement.values)

section

variable {manager : EntityManager} {steps : List Step} {world other : World}

theorem AllPlain.of_names {step : Step} (plain : AllPlain manager (step :: steps) world)
    (names : ∀ entity, other.entityName entity = world.entityName entity) :
    AllPlain manager steps other :=
  fun operation member => (plain operation (List.mem_cons_of_mem _ member)).of_names names

theorem generateAll_congr (manager : EntityManager) (steps : List Step)
    (same : other.cells = world.cells) :
    (generateAll manager steps other).1 = (generateAll manager steps world).1 ∧
      (generateAll manager steps other).2.cells = (generateAll manager steps world).2.cells := by
  induction steps generalizing world other with
  | nil => exact ⟨rfl, same⟩
  | cons step rest ih =>
      cases step with
      | mutate entity mutation => exact ih (World.cells_update_congr same entity _)
      | operation operation =>
          obtain ⟨others, left⟩ := ih (Operation.cells_settled_congr same operation manager)
          refine ⟨?_, left⟩
          simp only [generateAll, Operation.made_congr same, others]

/-- A context without callbacks is sent as a whole when the store accepts everything. -/
theorem FlushContext.run_accepted {context : FlushContext} (accepting : world.Accepting)
    (quiet : context.callbacks = []) :
    ∃ exchanges final, context.run world = (.ok .applied, final) ∧
      world.Settles exchanges final ∧
      exchanges.map (·.dispatch) = context.dispatches world.tracing := by
  obtain ⟨exchanges, carried, settles⟩ := context.execute_settles world
  have applied := carried.applied_of_accepting accepting
  have unlocked : ∀ callback ∈ context.callbacks, world.Unlocked callback.entity := by
    rw [quiet]
    exact List.forall_mem_nil _
  refine ⟨exchanges, _, ?_, settles, ?_⟩
  · rw [run_of_applied applied unlocked, quiet]
    rfl
  · rw [applied] at carried
    exact carried.complete

theorem EntityManager.content_pendingOf (manager : EntityManager) (schema : EntitySchema)
    (options : WriteOptions) (isBatch : Bool) (statements : List GeneratedStatement)
    (chosen : Bool → Bool) :
    ((statements.map (manager.pendingOf schema options isBatch)).filter
        fun pending => chosen pending.counter).map (·.content) =
      (statements.filter fun statement => chosen statement.counter).map (·.content) := by
  rw [List.filter_map, List.map_map]
  rfl

theorem EntityManager.content_enqueue (manager : EntityManager) (schema : EntitySchema)
    (options : WriteOptions) (statements : List GeneratedStatement) :
    ((manager.enqueue schema options statements .immediate).statements ++
        (manager.enqueue schema options statements .immediate).counterStatements).map (·.content) =
      (inTurn (.ok statements)).map (·.content) := by
  have adds := FlushContext.immediate.adds_pushAll
    (statements.map (manager.pendingOf schema options false))
  have plain : (manager.enqueue schema options statements .immediate).statements =
      (statements.map (manager.pendingOf schema options false)).filter
        fun added => !added.counter := adds.plain
  have counters : (manager.enqueue schema options statements .immediate).counterStatements =
      (statements.map (manager.pendingOf schema options false)).filter
        fun added => added.counter := adds.counters
  rw [plain, counters, List.map_append, inTurn, statementsOf, List.map_append]
  exact congrArg₂ (· ++ ·) (manager.content_pendingOf schema options false statements (!·))
    (manager.content_pendingOf schema options false statements (·))

theorem FlushContext.submissions_alone {context : FlushContext} (mode : context.mode = .immediate)
    (tracing : Bool) : (context.dispatches tracing).map (·.submission) =
      ((context.statements ++ context.counterStatements).map (·.single tracing)).map .single := by
  rw [dispatches, mode, List.map_map, List.map_map]
  rfl

/-- An operation by itself is applied and sends what it generates, or fails and sends nothing. -/
theorem Operation.Plain.call {operation : Operation} (plain : operation.Plain manager world)
    (accepting : world.Accepting) :
    ∃ (singles : List BoundStatement) (final : World),
      operation.call manager world = ((operation.made manager world).map fun _ => .applied, final) ∧
      final.executed = world.executed ++ singles.map .single ∧
      singles.map (·.content) = (inTurn (operation.made manager world)).map (·.content) ∧
      final.cells = (operation.settled manager world).cells ∧ final.Accepting := by
  rw [Operation.call_eq]
  have unordered : FlushContext.immediate.mode ≠ .orderedBatch := nofun
  rcases plain.prepare unordered with
    ⟨error, fails, prepared⟩ | ⟨schema, statements, generates, prepared⟩
  · rw [prepared, fails]
    refine ⟨[], world, rfl, (List.append_nil _).symm, rfl, ?_, accepting⟩
    simp only [Operation.settled, fails]
  · rw [prepared, generates]
    have contents := manager.content_enqueue schema operation.options statements
    have adds := FlushContext.immediate.adds_pushAll
      (statements.map (manager.pendingOf schema operation.options false))
    have mode : (manager.enqueue schema operation.options statements .immediate).mode =
        .immediate := adds.mode
    have quiet : (manager.enqueue schema operation.options statements .immediate).callbacks = [] :=
      adds.deferred
    generalize manager.enqueue schema operation.options statements .immediate = context
      at contents mode quiet
    have store := operation.sameStore_settled manager world
    have accepts := store.accepting accepting
    obtain ⟨exchanges, final, ran, settles, complete⟩ := context.run_accepted accepts quiet
    refine ⟨(context.statements ++ context.counterStatements).map
        (·.single (operation.settled manager world).tracing), final, ran, ?_, ?_, settles.cells,
      settles.accepting accepts⟩
    · rw [← FlushContext.submissions_alone mode, ← complete, settles.executed, store.executed,
        List.map_map]
      rfl
    · rw [← contents, List.map_map]
      rfl

structure CalledAlone (manager : EntityManager) (steps : List Step) (world : World)
    (made : List (Except WriteError (List GeneratedStatement))) (cells : List EntityCell) :
    Prop where
  results : (callAll manager steps world).1 =
    made.map fun generated => generated.map fun _ => .applied
  sent : ∃ singles : List BoundStatement,
    (callAll manager steps world).2.executed = world.executed ++ singles.map .single ∧
      singles.map (·.content) = (made.flatMap inTurn).map (·.content)
  left : (callAll manager steps world).2.cells = cells

theorem callAll_plain (plain : AllPlain manager steps world) (accepting : world.Accepting) :
    CalledAlone manager steps world (generateAll manager steps world).1
      (generateAll manager steps world).2.cells := by
  -- Every step keeps the names of the entities and a store that accepts what is still to come.
  induction steps generalizing world with
  | nil => exact ⟨rfl, ⟨[], (List.append_nil _).symm, rfl⟩, rfl⟩
  | cons step rest ih =>
      cases step with
      | mutate entity mutation =>
          have store := world.sameStore_update entity (·.attempt mutation)
          have names := World.entityName_update (fun record => record.entity_attempt mutation) world
            entity
          obtain ⟨results, ⟨singles, executed, contents⟩, left⟩ :=
            ih (plain.of_names names) (store.accepting accepting)
          rw [store.executed] at executed
          exact ⟨results, ⟨singles, executed, contents⟩, left⟩
      | operation operation =>
          obtain ⟨first, after, called, began, said, cells, accepts⟩ :=
            (plain operation List.mem_cons_self).call accepting
          have later : AllPlain manager rest after := plain.of_names fun entity => by
            rw [World.entityName_congr cells, operation.entityName_settled]
          obtain ⟨results, ⟨singles, executed, contents⟩, left⟩ := ih later accepts
          -- What is still to be generated depends on the records only, and they are as settled.
          obtain ⟨others, same⟩ := generateAll_congr manager rest cells
          rw [others] at results contents
          rw [same] at left
          refine ⟨?_, ⟨first ++ singles, ?_, ?_⟩, ?_⟩
          · simp only [callAll, called, results]
            rfl
          · simp only [callAll, called, executed, began, List.map_append, List.append_assoc]
          · simp only [generateAll, List.flatMap_cons, List.map_append, said, contents]
          · simp only [callAll, called, left]
            rfl

theorem filter_inTurn (made : Except WriteError (List GeneratedStatement)) :
    ((inTurn made).filter fun statement => !statement.counter) =
        (statementsOf made).filter (fun statement => !statement.counter) ∧
      ((inTurn made).filter fun statement => statement.counter) =
        (statementsOf made).filter fun statement => statement.counter := by
  simp [inTurn, List.filter_append, List.filter_filter]

theorem Batch.refusal?_plain {batch : Batch} {options : WriteOptions} (level : options.level = none)
    (serialLevel : options.serialLevel = none) (listener : options.listener = none) :
    batch.refusal? options = none := by
  simp [refusal?, level, serialLevel, listener]

/-- An operation joins an unordered batch with what it generates, or fails and adds nothing. -/
theorem Operation.Plain.join {operation : Operation} {batch : Batch}
    (plain : operation.Plain batch.manager world) (unordered : batch.context.mode ≠ .orderedBatch) :
    ∃ (after : FlushContext) (pending : List PendingStatement),
      batch.perform operation.inBatch world =
        ((operation.made batch.manager world).map fun _ => (), { batch with context := after },
          operation.settled batch.manager world) ∧
      batch.context.Adds after pending [] ∧
      ∀ chosen : Bool → Bool,
        (pending.filter fun added => chosen added.counter).map (·.content) =
          ((statementsOf (operation.made batch.manager world)).filter
            fun statement => chosen statement.counter).map (·.content) := by
  rw [Batch.perform_inBatch, Batch.guarded,
    Batch.refusal?_plain plain.level plain.serialLevel plain.listener]
  rcases plain.prepare unordered with
    ⟨error, fails, prepared⟩ | ⟨schema, statements, generates, prepared⟩
  · rw [prepared, fails]
    refine ⟨batch.context, [], ?_, .refl _, fun chosen => rfl⟩
    simp only [Operation.settled, fails]
    rfl
  · rw [prepared, generates]
    refine ⟨_, _, rfl, batch.context.adds_pushAll _, ?_⟩
    exact batch.manager.content_pendingOf schema operation.options _ statements

structure Joined (batch : Batch) (steps : List Step) (world : World)
    (made : List (Except WriteError (List GeneratedStatement))) (final : World) : Prop where
  results : (joinAll batch steps world).1 = made.map fun generated => generated.map fun _ => ()
  left : (joinAll batch steps world).2.2 = final
  store : world.SameStore final
  pending : ∃ pending,
    batch.context.Adds (joinAll batch steps world).2.1.context pending [] ∧
      (pending.filter fun added => !added.counter).map (·.content) =
        ((made.flatMap inTurn).filter fun statement => !statement.counter).map (·.content) ∧
      (pending.filter fun added => added.counter).map (·.content) =
        ((made.flatMap inTurn).filter fun statement => statement.counter).map (·.content)

theorem joinAll_plain {batch : Batch} (unordered : batch.context.mode ≠ .orderedBatch)
    (plain : AllPlain batch.manager steps world) :
    Joined batch steps world (generateAll batch.manager steps world).1
      (generateAll batch.manager steps world).2 := by
  induction steps generalizing batch world with
  | nil => exact ⟨rfl, rfl, .refl world, [], .refl _, rfl, rfl⟩
  | cons step rest ih =>
      cases step with
      | mutate entity mutation =>
          have store := world.sameStore_update entity (·.attempt mutation)
          have names := World.entityName_update (fun record => record.entity_attempt mutation) world
            entity
          have joined := ih unordered (plain.of_names names)
          exact ⟨joined.results, joined.left, store.trans joined.store, joined.pending⟩
      | operation operation =>
          obtain ⟨after, pending, performed, adds, contents⟩ :=
            (plain operation List.mem_cons_self).join unordered
          have still : ({ batch with context := after } : Batch).context.mode ≠ .orderedBatch := by
            rw [adds.mode]
            exact unordered
          have joined :=
            ih still (plain.of_names (operation.entityName_settled batch.manager world))
          obtain ⟨others, more, plainly, counted⟩ := joined.pending
          obtain ⟨uncounted, counters⟩ := filter_inTurn (operation.made batch.manager world)
          refine ⟨?_, ?_, (operation.sameStore_settled _ world).trans joined.store,
            pending ++ others, ?_, ?_, ?_⟩
          · simp only [joinAll, performed, joined.results]
            rfl
          · simp only [joinAll, performed, joined.left]
            rfl
          · simp only [joinAll, performed]
            exact adds.trans more
          · simp only [generateAll, List.flatMap_cons, List.filter_append, List.map_append, plainly,
              uncounted, contents (!·)]
          · simp only [generateAll, List.flatMap_cons, List.filter_append, List.map_append, counted,
              counters, contents (·)]

def bundle (type : BatchType) (contents : List (String × List CqlValue)) :
    List (BatchType × List (String × List CqlValue)) :=
  if contents.isEmpty then [] else [(type, contents)]

def Envelope.contents (envelope : Envelope) : BatchType × List (String × List CqlValue) :=
  (envelope.type, envelope.statements.map (·.content))

theorem FlushContext.contents_enveloped (context : FlushContext) (type : BatchType)
    (statements : List PendingStatement) (tracing : Bool) :
    ∃ envelopes : List Envelope,
      (context.enveloped type statements tracing).map (·.submission) = envelopes.map .batch ∧
        envelopes.map (·.contents) = bundle type (statements.map (·.content)) := by
  cases statements with
  | nil => exact ⟨[], rfl, rfl⟩
  | cons first rest =>
      refine ⟨[context.envelope type first (first :: rest) tracing], rfl, ?_⟩
      rw [List.map_singleton, Envelope.contents, envelope, List.map_map]
      rfl

theorem FlushContext.contents_dispatches {context : FlushContext} (batched : context.isBatch = true)
    (tracing : Bool) :
    ∃ envelopes : List Envelope,
      (context.dispatches tracing).map (·.submission) = envelopes.map .batch ∧
        envelopes.map (·.contents) =
          bundle context.batchType (context.statements.map (·.content)) ++
            bundle .counter (context.counterStatements.map (·.content)) := by
  obtain ⟨plain, plainSent, plainContents⟩ :=
    context.contents_enveloped context.batchType context.statements tracing
  obtain ⟨counters, countersSent, counterContents⟩ :=
    context.contents_enveloped .counter context.counterStatements tracing
  refine ⟨plain ++ counters, ?_, ?_⟩
  · rw [dispatches_of_isBatch batched, List.map_append, plainSent, countersSent, List.map_append]
  · rw [List.map_append, plainContents, counterContents]

structure Flushed (batch : Batch) (steps : List Step) (world : World)
    (made : List (Except WriteError (List GeneratedStatement))) (cells : List EntityCell) :
    Prop where
  results : (joinAll batch steps world).1 = made.map fun generated => generated.map fun _ => ()
  applied : ((joinAll batch steps world).2.1.flush (joinAll batch steps world).2.2).1 =
    .ok .applied
  sent : ∃ envelopes : List Envelope,
    ((joinAll batch steps world).2.1.flush (joinAll batch steps world).2.2).2.2.executed =
        world.executed ++ envelopes.map .batch ∧
      envelopes.map (·.contents) =
        bundle batch.context.batchType (((made.flatMap inTurn).filter fun statement =>
          !statement.counter).map (·.content)) ++
        bundle .counter (((made.flatMap inTurn).filter fun statement =>
          statement.counter).map (·.content))
  left : ((joinAll batch steps world).2.1.flush (joinAll batch steps world).2.2).2.2.cells = cells

theorem flushed_plain {batch : Batch} (mode : batch.context.mode = .batch)
    (statements : batch.context.statements = []) (counters : batch.context.counterStatements = [])
    (callbacks : batch.context.callbacks = []) (plain : AllPlain batch.manager steps world)
    (accepting : world.Accepting) :
    Flushed batch steps world (generateAll batch.manager steps world).1
      (generateAll batch.manager steps world).2.cells := by
  have unordered : batch.context.mode ≠ .orderedBatch := by
    rw [mode]
    exact nofun
  have joined := joinAll_plain unordered plain
  obtain ⟨pending, adds, plainly, counted⟩ := joined.pending
  have accepts := joined.store.accepting accepting
  have quiet : (joinAll batch steps world).2.1.context.callbacks = [] := by
    rw [adds.deferred, callbacks]
    rfl
  obtain ⟨exchanges, final, ran, settles, complete⟩ :=
    FlushContext.run_accepted accepts quiet
  have flushed : (joinAll batch steps world).2.1.flush (joinAll batch steps world).2.2 =
      (.ok .applied, (joinAll batch steps world).2.1.clean, final) := by
    rw [joined.left, Batch.flush, FlushContext.flush, ran]
    rfl
  refine ⟨joined.results, ?_, ?_, ?_⟩
  · rw [flushed]
  · have batched : (joinAll batch steps world).2.1.context.isBatch = true := by
      rw [FlushContext.isBatch, adds.mode, mode]
      rfl
    obtain ⟨envelopes, submitted, contents⟩ :=
      FlushContext.contents_dispatches batched (generateAll batch.manager steps world).2.tracing
    refine ⟨envelopes, ?_, ?_⟩
    · have sent := congrArg (List.map (·.submission)) complete
      rw [submitted, List.map_map] at sent
      rw [flushed, settles.executed, joined.store.executed]
      exact congrArg (world.executed ++ ·) sent
    · rw [contents, adds.batchType, adds.plain, adds.counters, statements, counters,
        List.nil_append, List.nil_append, plainly, counted]
  · rw [flushed, settles.cells]

end

/-- Carried out one by one or together in a batch, operations on entities without interceptors send
the same statements when the store accepts them all: the batch has the plain ones in one envelope
and the counters in another, each in the order in which the operations send them by themselves. They
fail for the same reasons, and leave the same records. -/
theorem batch_sends_calls (manager : EntityManager) (steps : List Step) {world other : World}
    (same : other.cells = world.cells) (plain : AllPlain manager steps world)
    (accepting : world.Accepting) (otherAccepting : other.Accepting) (unlogged : Bool)
    (level serialLevel : Option Level) :
    CalledAlone manager steps world (generateAll manager steps world).1
        (generateAll manager steps world).2.cells ∧
      Flushed (Batch.start manager false unlogged level serialLevel) steps other
        (generateAll manager steps world).1 (generateAll manager steps world).2.cells := by
  have plainly : AllPlain (Batch.start manager false unlogged level serialLevel).manager steps
      other := fun operation member =>
    (plain operation member).of_names (World.entityName_congr same)
  have flushed := flushed_plain rfl rfl rfl rfl plainly otherAccepting
  obtain ⟨made, left⟩ := generateAll_congr manager steps same
  refine ⟨callAll_plain plain accepting, ?_⟩
  rw [← made, ← left]
  exact flushed

def season : List Step :=
  [.operation (.write .insert 0 .standard), .mutate 0 (.set "club" (.text "Blues")),
    .mutate 0 (.increment "wins" 1), .operation (.write .update 0 .standard),
    .operation (.write .remove 1 .standard), .operation (.removeById "Player" [.int 7] .standard)]

theorem batch_sends_calls_season :
    AllPlain league season arena ∧ arena.Accepting ∧
      ((generateAll league season arena).1.map fun made => (statementsOf made).map (·.content)) =
        [[("INSERT INTO players (id, name, club, scores) VALUES (?, ?, ?, ?)",
              [.int 7, .text "Ann", .text "Reds", .list [.int 3]]),
            ("UPDATE players_counters SET wins = wins + ? WHERE id = ?", [.bigInt 1, .int 7])],
          [("UPDATE players SET club = ? WHERE id = ?", [.text "Blues", .int 7]),
            ("UPDATE players_counters SET wins = wins + ? WHERE id = ?", [.bigInt 1, .int 7])],
          [],
          [("DELETE FROM players WHERE id = ?", [.int 7]),
            ("DELETE FROM players_counters WHERE id = ?", [.int 7])]] ∧
      CalledAlone league season arena (generateAll league season arena).1
        (generateAll league season arena).2.cells ∧
      Flushed (Batch.start league false false none none) season { arena with tracing := true }
        (generateAll league season arena).1 (generateAll league season arena).2.cells := by
  have idle (name : String) (schema : EntitySchema)
      (known : Keyed.get? league.registry name = some schema) : schema.interceptors = [] := by
    rw [List.mem_singleton.mp (Registry.mem_schemas known)]
    rfl
  have standard (operation : Operation) (options : operation.options = .standard) :
      operation.Plain league arena := by
    refine ⟨?_, ?_, ?_, fun name schema _ known => idle name schema known⟩
    · rw [options]
      rfl
    · rw [options]
      rfl
    · rw [options]
      rfl
  have plain : AllPlain league season arena := by
    intro operation member
    refine standard operation ?_
    simp only [season, List.mem_cons, List.not_mem_nil, Step.operation.injEq, reduceCtorEq,
      false_or, or_false] at member
    rcases member with rfl | rfl | rfl | rfl <;> rfl
  have accepting : arena.Accepting := by
    intro index
    refine ⟨ResultSet.empty, rfl, ?_⟩
    rintro ⟨row, rest, rows, _⟩
    cases rows
  have turned := batch_sends_calls league season
    (show ({ arena with tracing := true } : World).cells = arena.cells from rfl) plain accepting
    accepting false none none
  exact ⟨plain, accepting, rfl, turned⟩

end CqlMapper
