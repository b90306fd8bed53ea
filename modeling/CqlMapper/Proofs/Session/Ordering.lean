import CqlMapper.Proofs.Session.Flushing
import CqlMapper.Proofs.Session.Stamping
import CqlMapper.Proofs.Session.Visits

/-!
Timestamps over the life of a batch session. In an ordered batch those of an operation are later
than those of every operation before it, whatever the wall clock does and whatever is flushed or
dropped in between. Elsewhere a timestamp is bound only when the options give one.
-/

namespace CqlMapper

namespace Visit

/-- The plain statements that an operation on an entity has put into the batch. -/
def plain (visit : Visit) : List PendingStatement :=
  match visit.action with
  | .operation _ => visit.after.context.statements.drop visit.batch.context.statements.length
  | _ => []

def counters (visit : Visit) : List PendingStatement :=
  match visit.action with
  | .operation _ =>
    visit.after.context.counterStatements.drop visit.batch.context.counterStatements.length
  | _ => []

def stamp (visit : Visit) : Int64 :=
  visit.batch.context.stampAt visit.world

def giving (visit : Visit) (timestamp : Option Int64) : Visit :=
  match visit.action with
  | .operation operation => { visit with action := .operation (operation.giving timestamp) }
  | _ => visit

/-- What a call puts into the batch: nothing, or what is generated for an operation on an entity,
the plain statements with this timestamp and the counters with none. -/
inductive Dates (visit : Visit) (stamp : Operation → Option Int64) : Prop
  | nothing (plain : visit.plain = []) (counters : visit.counters = []) : Dates visit stamp
  | generated {operation : Operation} {schema : EntitySchema} {asked : WriteOptions}
      {statements : List GeneratedStatement} (chosen : visit.action = .operation operation)
      (generates : operation.Generates visit.batch.manager visit.batch.context visit.world schema
        asked statements)
      (plain : List.Forall₂ (fun statement pending => schema.Dates asked (stamp operation)
        statement pending.query pending.values)
        (statements.filter fun statement => !statement.counter) visit.plain)
      (counters : List.Forall₂ (fun statement pending => schema.Dates asked none
        statement pending.query pending.values)
        (statements.filter fun statement => statement.counter) visit.counters) :
      Dates visit stamp

/-- A call on an ordered batch stamps with the tick of the clock, whatever timestamp the options
give. -/
structure Ordered (visit : Visit) : Prop where
  dates : visit.Dates fun _ => some visit.stamp
  indifferent : visit.plain ≠ [] → ∀ timestamp, (visit.giving timestamp).after = visit.after

variable {visit : Visit} {operation : Operation}

theorem after_giving {schema : EntitySchema} (chosen : visit.action = .operation operation)
    (admits : operation.admitted visit.batch.manager visit.world = .ok schema)
    (ordered : visit.batch.context.mode = .orderedBatch)
    (mixed : schema.isClusteredCounter = false) (timestamp : Option Int64) :
    (visit.giving timestamp).after = visit.after := by
  have given : visit.giving timestamp =
      { visit with action := .operation (operation.giving timestamp) } := by
    rw [giving, chosen]
  have refusal : visit.batch.refusal? (operation.giving timestamp).options =
      visit.batch.refusal? operation.options := by
    cases operation <;> rfl
  rw [given, after_guarded chosen, after_guarded rfl, Batch.guarded, Batch.guarded, refusal,
    Operation.prepare_giving admits ordered mixed timestamp]

inductive Effect (visit : Visit) (operation : Operation) : Prop
  | nothing (plain : visit.plain = []) (counters : visit.counters = [])
      (mode : visit.after.context.mode = visit.batch.context.mode)
      (clock : visit.after.context.clock = visit.batch.context.clock ∨
        visit.after.context.clock = ⟨visit.stamp⟩) :
      Effect visit operation
  | queued {schema : EntitySchema} {asked : WriteOptions} {stamped : FlushContext}
      {ticked : World} {statements : List GeneratedStatement}
      (admits : operation.admitted visit.batch.manager visit.world = .ok schema)
      (stamps : EntityManager.Stamps schema operation.options visit.batch.context visit.world
        (.ok asked) stamped ticked)
      (generated : operation.generation visit.batch.manager schema asked visit.world =
        .ok statements)
      (plain : visit.plain = (statements.map (visit.batch.manager.pendingOf schema asked
        visit.batch.context.isBatch)).filter fun pending => !pending.counter)
      (counters : visit.counters = (statements.map (visit.batch.manager.pendingOf schema asked
        visit.batch.context.isBatch)).filter fun pending => pending.counter)
      (mode : visit.after.context.mode = visit.batch.context.mode)
      (clock : visit.after.context.clock = stamped.clock) :
      Effect visit operation

theorem operation_effect (visit : Visit) (chosen : visit.action = .operation operation) :
    visit.Effect operation := by
  have plain : visit.plain =
      visit.after.context.statements.drop visit.batch.context.statements.length := by
    rw [Visit.plain, chosen]
  have counters : visit.counters =
      visit.after.context.counterStatements.drop visit.batch.context.counterStatements.length := by
    rw [Visit.counters, chosen]
  rcases visit.after_operation chosen with emptied | ⟨result, context, final, prepared, ends⟩
  · rw [emptied] at plain counters
    exact .nothing (plain.trans List.drop_nil) (counters.trans List.drop_nil) (by rw [emptied]; rfl)
      (Or.inl (by rw [emptied]; rfl))
  · have next : visit.after.context = context := by rw [prepared]
    have failed {schema : EntitySchema} {given : Except WriteError WriteOptions} {ticked : World}
        (stamps : EntityManager.Stamps schema operation.options visit.batch.context visit.world
          given context ticked) : visit.Effect operation := by
      have adds := stamps.adds
      rw [next, adds.plain, List.filter_nil, List.append_nil, List.drop_length] at plain
      rw [next, adds.counters, List.filter_nil, List.append_nil, List.drop_length] at counters
      exact .nothing plain counters (by rw [next, adds.mode]) (by rw [next]; exact stamps.clock)
    cases ends with
    | unadmitted =>
        rw [next, List.drop_length] at plain counters
        exact .nothing plain counters (by rw [next]) (Or.inl (by rw [next]))
    | timeless admits stamps => exact failed stamps
    | ungenerated admits stamps fails store => exact failed stamps
    | queued admits stamps generated adds clock store =>
        rw [next, adds.plain, List.drop_left] at plain
        rw [next, adds.counters, List.drop_left] at counters
        exact .queued admits stamps generated plain counters (by rw [next, adds.mode])
          (by rw [next, clock])

theorem Effect.mode (effect : visit.Effect operation) :
    visit.after.context.mode = visit.batch.context.mode := by
  cases effect with
  | nothing plain counters mode => exact mode
  | queued admits stamps generated plain counters mode => exact mode

theorem Effect.clock (effect : visit.Effect operation) :
    visit.after.context.clock = visit.batch.context.clock ∨
      visit.after.context.clock = ⟨visit.stamp⟩ := by
  cases effect with
  | nothing plain counters mode clock => exact clock
  | queued admits stamps generated plain counters mode clock =>
      rw [clock]
      exact stamps.clock

/-- Only operations on entities move the clock of a session, and each by one tick at most. -/
theorem after_session (visit : Visit) :
    visit.after.context.mode = visit.batch.context.mode ∧
      (visit.after.context.clock = visit.batch.context.clock ∨
        visit.after.context.clock = ⟨visit.stamp⟩) := by
  obtain ⟨batch, action, world⟩ := visit
  cases action with
  | operation operation =>
      have effect := operation_effect ⟨batch, .operation operation, world⟩ rfl
      exact ⟨effect.mode, effect.clock⟩
  | native query values =>
      simp only [after, Batch.perform]
      split
      · refine ⟨(batch.context.adds_push _).mode, Or.inl ?_⟩
        exact batch.context.clock_push _
      · exact ⟨rfl, Or.inl rfl⟩
  | clean | restart | flush => exact ⟨rfl, Or.inl rfl⟩
  | flushAsync tasks => exact ⟨rfl, Or.inl rfl⟩

/-- An operation dates its statements as its stamp says. -/
theorem Effect.dates {stamp : Operation → Option Int64} (effect : visit.Effect operation)
    (chosen : visit.action = .operation operation)
    (given : ∀ {schema asked stamped ticked}, EntityManager.Stamps schema operation.options
      visit.batch.context visit.world (.ok asked) stamped ticked →
        schema.isClusteredCounter = false → asked.timestamp = stamp operation) :
    visit.Dates stamp := by
  cases effect with
  | nothing plain counters => exact .nothing plain counters
  | queued admits stamps generated plain counters =>
      have dates := Operation.generation_dates generated
      refine .generated chosen (Operation.generates_of_admitted admits stamps generated) ?_ ?_
      · rw [plain, List.filter_map, List.forall₂_map_right_iff]
        refine List.forall₂_same.mpr ?_
        intro statement member
        obtain ⟨belongs, notCounter⟩ := List.mem_filter.mp member
        have other : statement.counter = false := by simpa using notCounter
        obtain ⟨dated, mixed⟩ := dates statement belongs
        rw [other, if_neg Bool.false_ne_true, given stamps (mixed other)] at dated
        exact dated
      · rw [counters, List.filter_map, List.forall₂_map_right_iff]
        refine List.forall₂_same.mpr ?_
        intro statement member
        obtain ⟨belongs, counter⟩ := List.mem_filter.mp member
        have dated := (dates statement belongs).1
        rw [if_pos counter] at dated
        exact dated

theorem Effect.ticked (effect : visit.Effect operation) (writes : visit.plain ≠ []) :
    ∃ schema asked stamped ticked,
      operation.admitted visit.batch.manager visit.world = .ok schema ∧
      schema.isClusteredCounter = false ∧
      EntityManager.Stamps schema operation.options visit.batch.context visit.world (.ok asked)
        stamped ticked ∧
      visit.after.context.clock = stamped.clock := by
  cases effect with
  | nothing plain => exact absurd plain writes
  | queued admits stamps generated plain counters mode clock =>
      rw [plain, List.filter_map] at writes
      obtain ⟨statement, member⟩ := List.exists_mem_of_ne_nil _ (mt List.map_eq_nil_iff.mpr writes)
      obtain ⟨belongs, notCounter⟩ := List.mem_filter.mp member
      have other : statement.counter = false := by
        simpa [EntityManager.pendingOf] using notCounter
      have mixed := (Operation.generation_dates generated statement belongs).2 other
      exact ⟨_, _, _, _, admits, mixed, stamps, clock⟩

theorem no_statements (idle : ∀ operation, visit.action ≠ .operation operation) :
    visit.plain = [] ∧ visit.counters = [] := by
  obtain ⟨batch, action, world⟩ := visit
  cases action with
  | operation operation => exact absurd rfl (idle operation)
  | _ => exact ⟨rfl, rfl⟩

/-- A call with plain statements in an ordered batch has ticked the clock. -/
theorem ordered_of_mode (visit : Visit) (mode : visit.batch.context.mode = .orderedBatch) :
    visit.Ordered ∧ (visit.plain ≠ [] → visit.after.context.clock = ⟨visit.stamp⟩) := by
  by_cases chosen : ∃ operation, visit.action = .operation operation
  · obtain ⟨operation, chosen⟩ := chosen
    have effect := visit.operation_effect chosen
    refine ⟨⟨effect.dates chosen fun stamps mixed => (stamps.ordered mode mixed).1, ?_⟩, ?_⟩
    · intro writes timestamp
      obtain ⟨schema, asked, stamped, ticked, admits, mixed, _⟩ := effect.ticked writes
      exact after_giving chosen admits mode mixed timestamp
    · intro writes
      obtain ⟨schema, asked, stamped, ticked, _, mixed, stamps, clock⟩ := effect.ticked writes
      rw [clock]
      exact (stamps.ordered mode mixed).2
  · obtain ⟨plain, counters⟩ := no_statements (not_exists.mp chosen)
    exact ⟨⟨.nothing plain counters, absurd plain⟩, absurd plain⟩

theorem unordered_of_mode (mode : visit.batch.context.mode ≠ .orderedBatch) :
    visit.Dates fun operation => operation.options.timestamp := by
  by_cases chosen : ∃ operation, visit.action = .operation operation
  · obtain ⟨operation, chosen⟩ := chosen
    refine (visit.operation_effect chosen).dates chosen ?_
    exact fun stamps _ => congrArg WriteOptions.timestamp (stamps.unordered mode)
  · obtain ⟨plain, counters⟩ := no_statements (not_exists.mp chosen)
    exact .nothing plain counters

end Visit

variable {batch : Batch}

theorem mode_visits (calls : List (Action × World)) :
    ∀ visit ∈ visits batch calls, visit.batch.context.mode = batch.context.mode := by
  induction calls generalizing batch with
  | nil => exact List.forall_mem_nil _
  | cons call rest ih =>
      refine List.forall_mem_cons.mpr ⟨rfl, ?_⟩
      intro visit member
      exact (ih visit member).trans (Visit.after_session ⟨batch, call.1, call.2⟩).1

theorem mode_follow (batch : Batch) (calls : List (Action × World)) :
    (batch.follow calls).context.mode = batch.context.mode := by
  unfold Batch.follow
  induction calls generalizing batch with
  | nil => rfl
  | cons call rest ih => exact (ih _).trans (Visit.after_session ⟨batch, call.1, call.2⟩).1

theorem Batch.Reached.isBatch (reached : batch.Reached) : batch.context.isBatch = true := by
  obtain ⟨manager, ordered, unlogged, level, serialLevel, calls, rfl⟩ := reached
  rw [FlushContext.isBatch, mode_follow]
  cases ordered <;> rfl

/-- No tick of the run has reached the last timestamp there is, that of its last call aside. -/
def Unexhausted (run : List Visit) : Prop :=
  ∀ visit ∈ run, visit.batch.context.clock.last ≠ Int64.maxValue

theorem lt_stamps {calls : List (Action × World)} (room : Unexhausted (visits batch calls)) :
    ∀ visit ∈ visits batch calls, batch.context.clock.last < visit.stamp := by
  induction calls generalizing batch with
  | nil => exact List.forall_mem_nil _
  | cons call rest ih =>
      obtain ⟨first, others⟩ := List.forall_mem_cons.mp room
      have here := StampClock.lt_next first (call.2.wall.reading call.2.wall.reads)
      refine List.forall_mem_cons.mpr ⟨here, ?_⟩
      intro visit member
      have later := ih others visit member
      rcases (Visit.after_session ⟨batch, call.1, call.2⟩).2 with still | ticked
      · rw [still] at later
        exact later
      · rw [ticked] at later
        exact Int64.lt_trans here later

theorem stamps_increase {calls : List (Action × World)}
    (mode : batch.context.mode = .orderedBatch) (room : Unexhausted (visits batch calls)) :
    (visits batch calls).Pairwise fun earlier later =>
      earlier.plain ≠ [] → earlier.stamp < later.stamp := by
  induction calls generalizing batch with
  | nil => exact .nil
  | cons call rest ih =>
      obtain ⟨_, others⟩ := List.forall_mem_cons.mp room
      have still := (Visit.after_session ⟨batch, call.1, call.2⟩).1.trans mode
      refine List.pairwise_cons.mpr ⟨?_, ih still others⟩
      intro later member writes
      have ticked := (Visit.ordered_of_mode ⟨batch, call.1, call.2⟩ mode).2 writes
      have after := lt_stamps others later member
      rw [ticked] at after
      exact after

namespace Operation

variable {manager : EntityManager} {world : World}

def call (operation : Operation) (manager : EntityManager) (world : World) :
    Except WriteError Outcome × World :=
  match operation with
  | .write kind entity options => manager.write kind entity options world
  | .removeById entity key options => manager.removeById entity key options world

theorem call_eq (operation : Operation) (manager : EntityManager) (world : World) :
    operation.call manager world =
      match operation.prepare manager .immediate world with
      | (.error error, _, after) => (.error error, after)
      | (.ok (), context, after) => context.run after := by
  cases operation <;> rfl

def prepared (operation : Operation) (manager : EntityManager) (world : World) : FlushContext :=
  (operation.prepare manager .immediate world).2.1

/-- What an operation by itself sends: nothing, or a first part of what is generated for it, plain
statements before counters. The plain ones have the timestamp of its options, if any, and the
counters none. -/
inductive SendsDated (operation : Operation) (manager : EntityManager)
    (world before after : World) : Prop
  | nothing (executed : after.executed = before.executed) :
      SendsDated operation manager world before after
  | generated {schema : EntitySchema} {asked : WriteOptions}
      {statements sent : List GeneratedStatement} {submissions : List Submission}
      (generates : operation.Generates manager .immediate world schema asked statements)
      (first : sent <+: (statements.filter fun statement => !statement.counter) ++
        statements.filter fun statement => statement.counter)
      (dates : List.Forall₂ (fun statement submission => ∃ bound, submission = .single bound ∧
        schema.Dates asked (if statement.counter then none else operation.options.timestamp)
          statement bound.query bound.values) sent submissions)
      (executed : after.executed = before.executed ++ submissions) :
      SendsDated operation manager world before after

theorem prepared_mode (operation : Operation) (manager : EntityManager) (world : World) :
    (operation.prepared manager world).mode = .immediate := by
  have ends := operation.prepare_ends manager .immediate world
  unfold prepared
  generalize operation.prepare manager .immediate world = ended at ends ⊢
  obtain ⟨result, context, final⟩ := ended
  cases ends with
  | unadmitted => rfl
  | timeless admits stamps => exact stamps.adds.mode
  | ungenerated admits stamps fails store => exact stamps.adds.mode
  | queued admits stamps generated adds clock store => exact adds.mode

/-- All that an operation by itself prepares is for the statements generated now. -/
theorem prepared_cases (operation : Operation) (manager : EntityManager) (world : World) :
    (operation.prepared manager world).statements ++
        (operation.prepared manager world).counterStatements = [] ∨
      ∃ schema asked statements,
        operation.Generates manager .immediate world schema asked statements ∧
        (operation.prepared manager world).statements ++
            (operation.prepared manager world).counterStatements =
          ((statements.filter fun statement => !statement.counter) ++
            statements.filter fun statement => statement.counter).map
              (manager.pendingOf schema asked false) := by
  have ends := operation.prepare_ends manager .immediate world
  unfold prepared
  generalize operation.prepare manager .immediate world = ended at ends ⊢
  obtain ⟨result, context, final⟩ := ended
  have failed {schema : EntitySchema} {given : Except WriteError WriteOptions} {ticked : World}
      (stamps : EntityManager.Stamps schema operation.options .immediate world given context
        ticked) : context.statements ++ context.counterStatements = [] := by
    rw [stamps.adds.plain, stamps.adds.counters]
    rfl
  cases ends with
  | unadmitted => exact Or.inl rfl
  | timeless admits stamps => exact Or.inl (failed stamps)
  | ungenerated admits stamps fails store => exact Or.inl (failed stamps)
  | queued admits stamps generated adds clock store =>
      refine Or.inr ⟨_, _, _, generates_of_admitted admits stamps generated, ?_⟩
      rw [adds.plain, adds.counters, List.filter_map, List.filter_map, List.map_append]
      rfl

theorem prepared_queued {operation : Operation} {pending : PendingStatement}
    (member : pending ∈ (operation.prepared manager world).statements ++
      (operation.prepared manager world).counterStatements) :
    ∃ schema asked statements,
      operation.Generates manager .immediate world schema asked statements ∧
      pending ∈ statements.map (manager.pendingOf schema asked false) := by
  rcases operation.prepared_cases manager world with nothing | ⟨schema, asked, statements,
    generates, queued⟩
  · rw [nothing] at member
    cases member
  · rw [queued] at member
    obtain ⟨statement, among, same⟩ := List.mem_map.mp member
    have belongs : statement ∈ statements :=
      (List.mem_append.mp among).elim List.mem_of_mem_filter List.mem_of_mem_filter
    exact ⟨schema, asked, statements, generates, List.mem_map.mpr ⟨statement, belongs, same⟩⟩

theorem run_singly (operation : Operation) (manager : EntityManager) (world later : World) :
    ∃ sent : List PendingStatement,
      sent <+: (operation.prepared manager world).statements ++
        (operation.prepared manager world).counterStatements ∧
      ((operation.prepared manager world).run later).2.executed = later.executed ++
        sent.map fun pending => .single (pending.single later.tracing) := by
  have mode := operation.prepared_mode manager world
  generalize operation.prepared manager world = context at mode ⊢
  obtain ⟨exchanges, ⟨outcome, carried⟩, executed⟩ := context.exists_sends later
  have started := carried.isPrefix
  rw [FlushContext.dispatches, mode] at started
  obtain ⟨sent, first, same⟩ := List.prefix_map_iff.mp started
  refine ⟨sent, first, ?_⟩
  calc (context.run later).2.executed
      = later.executed ++ (exchanges.map (·.dispatch)).map (·.submission) := by
        rw [executed, List.map_map]
        rfl
    _ = _ := by
        rw [same, List.map_map]
        rfl

/-- A call that fails to prepare sends nothing; any other runs what it has prepared. -/
theorem call_cases {operation : Operation} {result : Except WriteError Unit}
    {context : FlushContext} {final : World}
    (outcome : operation.prepare manager .immediate world = (result, context, final)) :
    (operation.call manager world).2 = final ∨
      operation.call manager world = context.run final := by
  rw [call_eq, outcome]
  cases result with
  | error error => exact Or.inl rfl
  | ok => exact Or.inr rfl

theorem call_singly (operation : Operation) (manager : EntityManager) (world : World) :
    ∃ sent : List PendingStatement,
      sent <+: (operation.prepared manager world).statements ++
        (operation.prepared manager world).counterStatements ∧
      (operation.call manager world).2.executed = world.executed ++
        sent.map fun pending => .single (pending.single world.tracing) := by
  obtain ⟨result, context, final, outcome, queues⟩ :=
    operation.prepare_queues manager .immediate world
  have store := queues.sameStore
  have before := store.executed
  rcases call_cases outcome with failed | ran
  · rw [failed]
    exact ⟨[], List.nil_prefix, before.trans (List.append_nil _).symm⟩
  · obtain ⟨sent, first, executed⟩ := operation.run_singly manager world final
    refine ⟨sent, first, ?_⟩
    rw [prepared, outcome, before, store.tracing] at executed
    rw [ran]
    exact executed

/-- What an operation by itself has sent of what is generated for it, plain statements before
counters, is dated as its options ask. -/
theorem sendsDated {operation : Operation} {before after : World}
    {sent : List PendingStatement} {tracing : Bool}
    (first : sent <+: (operation.prepared manager world).statements ++
      (operation.prepared manager world).counterStatements)
    (executed : after.executed = before.executed ++
      sent.map fun pending => .single (pending.single tracing)) :
    operation.SendsDated manager world before after := by
  rcases operation.prepared_cases manager world with nothing | ⟨schema, asked, statements,
    generates, queued⟩
  · rw [nothing, List.prefix_nil] at first
    subst first
    exact .nothing (executed.trans (List.append_nil _))
  · rw [queued] at first
    obtain ⟨given, among, rfl⟩ := List.prefix_map_iff.mp first
    rw [List.map_map] at executed
    obtain ⟨named, known, faultless, stamps, generated⟩ := generates
    refine .generated (.intro named known faultless stamps generated) among ?_ executed
    rw [List.forall₂_map_right_iff, List.forall₂_same]
    intro statement member
    have belongs : statement ∈ statements :=
      (List.mem_append.mp (among.subset member)).elim List.mem_of_mem_filter
        List.mem_of_mem_filter
    rw [← stamps.unordered nofun]
    exact ⟨_, rfl, (generation_dates generated statement belongs).1⟩

end Operation

/-- In an ordered batch the timestamps of an operation are later than those of every one before it
and none comes from its options; elsewhere only the options give one. -/
theorem timestamps_of_operations :
    (∀ manager unlogged level serialLevel calls,
      Unexhausted (visits (Batch.start manager true unlogged level serialLevel) calls) →
        (∀ visit ∈ visits (Batch.start manager true unlogged level serialLevel) calls,
          visit.Ordered) ∧
        (visits (Batch.start manager true unlogged level serialLevel) calls).Pairwise
          fun earlier later => earlier.plain ≠ [] → earlier.stamp < later.stamp) ∧
    (∀ manager unlogged level serialLevel calls,
      ∀ visit ∈ visits (Batch.start manager false unlogged level serialLevel) calls,
        visit.Dates fun operation => operation.options.timestamp) ∧
    ∀ (operation : Operation) manager world,
      operation.SendsDated manager world world (operation.call manager world).2 ∧
      ∀ later : World, operation.SendsDated manager world later
        ((operation.prepared manager world).run later).2 := by
  refine ⟨?_, ?_, ?_⟩
  · intro manager unlogged level serialLevel calls room
    refine ⟨?_, stamps_increase rfl room⟩
    intro visit member
    exact (visit.ordered_of_mode (mode_visits calls visit member)).1
  · intro manager unlogged level serialLevel calls visit member
    refine Visit.unordered_of_mode ?_
    rw [mode_visits calls visit member]
    exact nofun
  · intro operation manager world
    refine ⟨?_, ?_⟩
    · obtain ⟨sent, first, executed⟩ := operation.call_singly manager world
      exact Operation.sendsDated first executed
    · intro later
      obtain ⟨sent, first, executed⟩ := operation.run_singly manager world later
      exact Operation.sendsDated first executed

def memberManager : EntityManager :=
  ⟨[("Member", membersSchema)], Config.standard⟩

def memberWorld (now : Int64) : World where
  cells := [⟨.loaded "Member" [("team", .text "red"), ("number", .int 7)], false⟩]
  backend := Backend.empty
  wall := ⟨fun _ => now, 0⟩
  tracing := false
  notices := []

/-- The clock is set back between the two operations. -/
def memberCalls : List (Action × World) :=
  [(.operation (.write .insert 0 { WriteOptions.standard with timestamp := some 7 }),
      memberWorld 100),
    (.flush, memberWorld 100),
    (.operation (.removeById "Member" [.text "red", .int 7] .standard), memberWorld 40)]

def memberRun : List Visit :=
  visits (Batch.start memberManager true false none none) memberCalls

theorem timestamps_of_members :
    Unexhausted memberRun ∧
      memberRun.map (fun visit => (visit.plain.length, visit.stamp)) =
        [(1, 100), (0, 101), (1, 101)] ∧
      (∀ visit ∈ memberRun, visit.Ordered) ∧
      memberRun.Pairwise fun earlier later => earlier.plain ≠ [] → earlier.stamp < later.stamp := by
  have room : Unexhausted memberRun := by
    refine List.forall_mem_cons.mpr ⟨?_, List.forall_mem_cons.mpr ⟨?_, ?_⟩⟩
    · decide
    · decide
    · exact List.forall_mem_singleton.mpr (by decide)
  exact ⟨room, rfl, timestamps_of_operations.1 memberManager false none none memberCalls room⟩

end CqlMapper
