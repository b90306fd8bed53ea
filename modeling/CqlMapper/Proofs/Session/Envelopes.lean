import CqlMapper.Proofs.Session.Flushing
import CqlMapper.Proofs.Session.Performing
import CqlMapper.Proofs.Statement.Isolation

/-!
The envelopes that a batch of entity operations sends. Those for counters hold nothing but counter
writes, and the others hold none.
-/

namespace CqlMapper

namespace Registry

def IsBuilt (registry : Registry) : Prop :=
  ∀ schema ∈ registry.schemas, ∃ entity : EntityDeclaration, entity.build = .ok schema

theorem mem_schemas {registry : Registry} {name : String} {schema : EntitySchema}
    (found : registry.get? name = some schema) : schema ∈ registry.schemas := by
  obtain ⟨entry, among, rfl⟩ := Option.map_eq_some_iff.mp found
  exact List.mem_map_of_mem (List.mem_of_find?_eq_some among)

end Registry

structure PendingStatement.Isolated (registry : Registry) (pending : PendingStatement) : Prop where
  generated : ∃ schema ∈ registry.schemas, ∃ purpose statement,
    schema.Isolates purpose statement ∧ pending.query = statement.write.query ∧
      pending.values = statement.write.values ∧ pending.counter = statement.counter

/-- Whether a submission is an envelope of statements for the entities of a registry, either all of
them counter writes in an envelope for counters or none of them in another. -/
inductive Submission.Isolated (registry : Registry) : Submission → Prop
  | batch {envelope : Envelope}
      (each : ∀ bound ∈ envelope.statements, ∃ schema ∈ registry.schemas, ∃ purpose statement,
        schema.Isolates purpose statement ∧
          bound = .plain statement.write.query statement.write.values ∧
          (envelope.type = .counter ↔ statement.counter = true)) :
      Isolated registry (.batch envelope)

structure Batch.Isolated (batch : Batch) : Prop where
  batched : batch.context.isBatch = true
  type : batch.context.batchType ≠ .counter
  plain : ∀ pending ∈ batch.context.statements,
    pending.Isolated batch.manager.registry ∧ pending.counter = false
  counters : ∀ pending ∈ batch.context.counterStatements,
    pending.Isolated batch.manager.registry ∧ pending.counter = true

def Action.isNative : Action → Bool
  | .native _ _ => true
  | _ => false

theorem EntityManager.pendingOf_isolated {manager : EntityManager} {schema : EntitySchema}
    {entity : EntityDeclaration} (built : entity.build = .ok schema)
    (known : schema ∈ manager.registry.schemas) {request : Request} {asked : WriteOptions}
    {statements : List GeneratedStatement}
    (generated : request.generate schema asked = .ok statements) (isBatch : Bool) :
    ∀ pending ∈ statements.map (manager.pendingOf schema asked isBatch),
      pending.Isolated manager.registry := by
  intro pending member
  obtain ⟨statement, among, rfl⟩ := List.mem_map.mp member
  obtain ⟨generation, made⟩ := request.exists_generation generated
  obtain ⟨purpose, _, serves⟩ :=
    Outcome.exists_left (EntitySchema.generation_serves built made) among
  exact ⟨schema, known, purpose, statement, serves.isolates, rfl, rfl, rfl⟩

namespace Batch

variable {batch : Batch}

theorem isolated_of_empty (batched : batch.context.isBatch = true)
    (type : batch.context.batchType ≠ .counter) (statements : batch.context.statements = [])
    (counters : batch.context.counterStatements = []) : batch.Isolated := by
  refine ⟨batched, type, ?_, ?_⟩
  · rw [statements]
    exact List.forall_mem_nil _
  · rw [counters]
    exact List.forall_mem_nil _

theorem isolated_start (manager : EntityManager) (ordered unlogged : Bool)
    (level serialLevel : Option Level) :
    (start manager ordered unlogged level serialLevel).Isolated := by
  refine isolated_of_empty ?_ ?_ rfl rfl
  · cases ordered <;> rfl
  · cases unlogged <;> exact nofun

/-- What is added to an isolated batch goes to the counters if it is marked as a counter write. -/
theorem Isolated.adds (isolated : batch.Isolated) {context : FlushContext}
    {statements : List PendingStatement} {callbacks : List Callback}
    (adds : batch.context.Adds context statements callbacks)
    (generated : ∀ pending ∈ statements, pending.Isolated batch.manager.registry) :
    Batch.Isolated { batch with context := context } := by
  have batched : context.isBatch = true := by
    rw [FlushContext.isBatch, adds.mode]
    exact isolated.batched
  have type : context.batchType ≠ .counter := by
    rw [adds.batchType]
    exact isolated.type
  refine ⟨batched, type, ?_, ?_⟩
  · change ∀ pending ∈ context.statements, _
    rw [adds.plain]
    refine List.forall_mem_append.mpr ⟨isolated.plain, ?_⟩
    intro pending member
    obtain ⟨among, plain⟩ := List.mem_filter.mp member
    exact ⟨generated pending among, by simpa using plain⟩
  · change ∀ pending ∈ context.counterStatements, _
    rw [adds.counters]
    refine List.forall_mem_append.mpr ⟨isolated.counters, ?_⟩
    intro pending member
    obtain ⟨among, counter⟩ := List.mem_filter.mp member
    exact ⟨generated pending among, counter⟩

theorem Isolated.after (visit : Visit) (isolated : visit.batch.Isolated)
    (built : visit.batch.manager.registry.IsBuilt) (own : visit.action.isNative = false) :
    visit.after.Isolated ∧ visit.after.manager = visit.batch.manager := by
  have emptied (context : FlushContext) (session : visit.batch.context.SameSession context)
      (statements : context.statements = []) (counters : context.counterStatements = []) :
      Batch.Isolated { visit.batch with context := context } := by
    refine isolated_of_empty ?_ ?_ statements counters
    · rw [FlushContext.isBatch, session.mode]
      exact isolated.batched
    · rw [session.batchType]
      exact isolated.type
  obtain ⟨batch, action, world⟩ := visit
  cases action with
  | operation operation =>
      rcases Visit.after_operation ⟨batch, .operation operation, world⟩ rfl with
        cleaned | ⟨result, context, final, prepared, ends⟩
      · rw [cleaned]
        exact ⟨emptied _ ⟨rfl, rfl, rfl, rfl⟩ rfl rfl, rfl⟩
      · rw [prepared]
        refine ⟨?_, rfl⟩
        cases ends.queues with
        | refused => exact isolated
        | failed stamps store => exact isolated.adds stamps.adds (List.forall_mem_nil _)
        | queued admits stamps generated adds post clock store =>
            obtain ⟨name, _, known, _⟩ := Operation.admitted_ok admits
            obtain ⟨entity, declared⟩ := built _ (Registry.mem_schemas known)
            exact isolated.adds adds (EntityManager.pendingOf_isolated declared
              (Registry.mem_schemas known) generated _)
  | native query values => cases own
  | clean | flush | flushAsync tasks =>
      exact ⟨emptied batch.context.clean ⟨rfl, rfl, rfl, rfl⟩ rfl rfl, rfl⟩
  | restart level serialLevel =>
      exact ⟨isolated_of_empty isolated.batched isolated.type rfl rfl, rfl⟩

theorem Isolated.follow {calls : List (Action × World)} (isolated : batch.Isolated)
    (built : batch.manager.registry.IsBuilt) (own : ∀ call ∈ calls, call.1.isNative = false) :
    (batch.follow calls).Isolated ∧ (batch.follow calls).manager = batch.manager := by
  unfold Batch.follow
  induction calls generalizing batch with
  | nil => exact ⟨isolated, rfl⟩
  | cons call rest ih =>
      obtain ⟨first, others⟩ := List.forall_mem_cons.mp own
      obtain ⟨next, same⟩ := Isolated.after ⟨batch, call.1, call.2⟩ isolated built first
      rw [← same] at built
      obtain ⟨final, kept⟩ := ih next built others
      exact ⟨final, kept.trans same⟩

/-- An envelope of statements that are all of one kind. -/
theorem enveloped_isolated {registry : Registry} {context : FlushContext} {type : BatchType}
    {statements : List PendingStatement} {tracing : Bool}
    (each : ∀ pending ∈ statements,
      pending.Isolated registry ∧ (type = .counter ↔ pending.counter = true)) :
    ∀ dispatch ∈ context.enveloped type statements tracing,
      dispatch.submission.Isolated registry := by
  intro dispatch member
  obtain ⟨first, _, rfl⟩ := List.mem_map.mp member
  refine .batch ?_
  intro bound among
  obtain ⟨pending, belongs, rfl⟩ := List.mem_map.mp among
  obtain ⟨isolated, kind⟩ := each pending belongs
  obtain ⟨schema, known, purpose, statement, isolates, query, values, counter⟩ :=
    isolated.generated
  refine ⟨schema, known, purpose, statement, isolates, ?_, ?_⟩
  · rw [PendingStatement.batched, query, values]
  · rw [← counter]
    exact kind

theorem Isolated.run (isolated : batch.Isolated) (world : World) :
    ∃ sent, (batch.context.run world).2.executed = world.executed ++ sent ∧
      ∀ submission ∈ sent, submission.Isolated batch.manager.registry := by
  obtain ⟨exchanges, ⟨outcome, carried⟩, executed⟩ := batch.context.exists_sends world
  refine ⟨_, executed, ?_⟩
  intro submission member
  obtain ⟨exchange, among, rfl⟩ := List.mem_map.mp member
  have dispatched := carried.isPrefix.subset (List.mem_map_of_mem among)
  rw [FlushContext.dispatches_of_isBatch isolated.batched] at dispatched
  rcases List.mem_append.mp dispatched with plain | counters
  · refine enveloped_isolated ?_ exchange.dispatch plain
    intro pending belongs
    obtain ⟨generated, unmarked⟩ := isolated.plain pending belongs
    exact ⟨generated, by simp [isolated.type, unmarked]⟩
  · refine enveloped_isolated ?_ exchange.dispatch counters
    intro pending belongs
    obtain ⟨generated, marked⟩ := isolated.counters pending belongs
    exact ⟨generated, by simp [marked]⟩

end Batch

/-- Counter writes are generated apart from all others, and a batch of operations on entities sends
them apart, whatever is called on it and whenever it is flushed. -/
theorem counters_isolated :
    (∀ (entity : EntityDeclaration) (schema : EntitySchema) (options : WriteOptions)
      (generation : Generation) (statements : List GeneratedStatement),
      entity.build = .ok schema → generation.statements schema options = .ok statements →
        List.Forall₂ schema.Isolates (generation.purposes schema) statements) ∧
    ∀ (manager : EntityManager) (ordered unlogged : Bool) (level serialLevel : Option Level)
      (calls : List (Action × World)) (world : World),
      manager.registry.IsBuilt → (∀ call ∈ calls, call.1.isNative = false) →
        ∃ sent,
          (((Batch.start manager ordered unlogged level serialLevel).follow calls).context.run
            world).2.executed = world.executed ++ sent ∧
          ∀ submission ∈ sent, submission.Isolated manager.registry := by
  constructor
  · intro entity schema options generation statements built generated
    have serves := EntitySchema.generation_serves built generated
    exact serves.imp fun _ _ => EntitySchema.Serves.isolates
  · intro manager ordered unlogged level serialLevel calls world built own
    have isolated := Batch.isolated_start manager ordered unlogged level serialLevel
    obtain ⟨final, same⟩ := isolated.follow built own
    have ran := final.run world
    rw [same] at ran
    exact ran

def league : EntityManager :=
  ⟨[("Player", playerSchema)], Config.standard⟩

def arena : World where
  cells := [⟨newcomer.set "id" (.int 7), false⟩]
  backend := Backend.empty
  wall := ⟨fun _ => 0, 0⟩
  tracing := false
  notices := []

def signing : List (Action × World) :=
  [(.operation (.write .insert 0 .standard), arena)]

theorem counters_isolated_league :
    player.build = .ok playerSchema ∧
      (Generation.change (Fields.empty.set "id" (.int 7)) newcomer.dirtyChanges).statements
        playerSchema .standard = .ok newcomerStatements ∧
      List.Forall₂ playerSchema.Isolates [.row, .row, .row, .increment "wins"]
        newcomerStatements ∧
      league.registry.IsBuilt ∧ (∀ call ∈ signing, call.1.isNative = false) ∧
      ∃ sent,
        (((Batch.start league false false none none).follow signing).context.run
          arena).2.executed = sent ∧
        (sent.map fun submission => submission.statements.length) = [1, 1] ∧
        ∀ submission ∈ sent, submission.Isolated league.registry := by
  have built : player.build = .ok playerSchema := rfl
  have known : league.registry.IsBuilt := by
    intro schema member
    rw [List.mem_singleton.mp member]
    exact ⟨player, built⟩
  have own : ∀ call ∈ signing, call.1.isNative = false :=
    List.forall_mem_singleton.mpr rfl
  have generated : (Generation.change (Fields.empty.set "id" (.int 7))
      newcomer.dirtyChanges).statements playerSchema .standard = .ok newcomerStatements := rfl
  have isolates := counters_isolated.1 player playerSchema .standard _ _ built generated
  obtain ⟨sent, executed, isolated⟩ :=
    counters_isolated.2 league false false none none signing arena known own
  have lengths : ((((Batch.start league false false none none).follow signing).context.run
      arena).2.executed.map fun submission => submission.statements.length) = [1, 1] := rfl
  rw [executed] at lengths
  exact ⟨built, generated, isolates, known, own, sent, executed, lengths, isolated⟩

end CqlMapper
