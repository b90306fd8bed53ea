import CqlMapper.Proofs.Session.Moves

/-!
What waits in a batch, oldest first, followed through all calls on it together with the entity that
each statement was generated for and the levels of the session.
-/

namespace CqlMapper

structure Queued where
  /-- The schema of the entity; a statement written by hand has none. -/
  origin : Option EntitySchema
  pending : PendingStatement

def Queued.part (queue : List Queued) (counter : Bool) : List Queued :=
  queue.filter fun entry => entry.pending.counter == counter

/-- An envelope of some statements, the first of which sets what the session leaves open. -/
inductive Submission.LedBy (levels : Option Level × Option Level) (first : Queued)
    (rest : List Queued) : Submission → Prop
  | batch {envelope : Envelope}
      (statements : envelope.statements = (first :: rest).map (·.pending.batched))
      (level : envelope.level = levels.1.getD first.pending.level)
      (serialLevel : envelope.serialLevel = levels.2.or first.pending.serialLevel) :
      LedBy levels first rest (.batch envelope)

inductive BatchOperation.About (batch : Batch) (world : World) :
    BatchOperation → Option EntitySchema → Prop
  | entity {operation : Operation} {name : String} {schema : EntitySchema}
      (named : operation.entityName world = .ok name)
      (known : Keyed.get? batch.manager.registry name = some schema) :
      About batch world operation.inBatch (some schema)
  | native (query : String) (values : List CqlValue) :
      About batch world (.native query values) none

/-- A batch of this manager, in which these statements wait at these levels. Every call may find
another world. -/
inductive Batch.Waits (manager : EntityManager) :
    Option Level × Option Level → List Queued → Batch → Prop
  | started (ordered unlogged : Bool) (level serialLevel : Option Level) :
      Waits manager (level, serialLevel) []
        (Batch.start manager ordered unlogged level serialLevel)
  | queued {levels : Option Level × Option Level} {queue : List Queued} {batch : Batch}
      {operation : BatchOperation} {world : World} {origin : Option EntitySchema}
      {statements : List PendingStatement} {callbacks : List Callback}
      (waits : Waits manager levels queue batch)
      (performed : (batch.perform operation world).1 = .ok ())
      (about : operation.About batch world origin)
      (makes : operation.Makes batch world statements callbacks) :
      Waits manager levels (queue ++ statements.map (Queued.mk origin))
        (batch.perform operation world).2.1
  | failed {levels : Option Level × Option Level} {queue : List Queued} {batch : Batch}
      {operation : BatchOperation} {world : World} {error : WriteError}
      (waits : Waits manager levels queue batch)
      (fails : (batch.perform operation world).1 = .error error)
      (accepts : batch.refusal? operation.options = none) :
      Waits manager levels queue (batch.perform operation world).2.1
  | refused {levels : Option Level × Option Level} {queue : List Queued} {batch : Batch}
      {operation : BatchOperation} {fault : UsageFault}
      (waits : Waits manager levels queue batch)
      (refuses : batch.refusal? operation.options = some fault) (world : World) :
      Waits manager levels [] (batch.perform operation world).2.1
  | cleaned {levels : Option Level × Option Level} {queue : List Queued} {batch : Batch}
      (waits : Waits manager levels queue batch) : Waits manager levels [] batch.clean
  | restarted {levels : Option Level × Option Level} {queue : List Queued} {batch : Batch}
      (waits : Waits manager levels queue batch) (level serialLevel : Option Level) :
      Waits manager (level, serialLevel) [] (batch.restart level serialLevel)
  | flushed {levels : Option Level × Option Level} {queue : List Queued} {batch : Batch}
      (waits : Waits manager levels queue batch) (world : World) :
      Waits manager levels [] (batch.flush world).2.1
  | handedOver {levels : Option Level × Option Level} {queue : List Queued} {batch : Batch}
      (waits : Waits manager levels queue batch) (tasks : Tasks) (world : World) :
      Waits manager levels [] (batch.flushAsync tasks world).2.1

/-- The levels that a statement of a session comes to. One that is generated for an entity has those
of its table and of the configuration where the session leaves them open. -/
structure Queued.Levelled (manager : EntityManager) (levels : Option Level × Option Level)
    (entry : Queued) : Prop where
  native : entry.origin = none →
    entry.pending.counter = false ∧ entry.pending.serialLevel = levels.2
  level : ∀ schema, entry.origin = some schema →
    levels.1.getD entry.pending.level = levels.1.getD (manager.resolver.write schema.table none)
  serialLevel : entry.origin.isSome = true →
    levels.2.or entry.pending.serialLevel = levels.2.or manager.config.defaultSerial

structure Batch.Carries (manager : EntityManager) (levels : Option Level × Option Level)
    (queue : List Queued) (batch : Batch) : Prop where
  own : batch.manager = manager
  batched : batch.context.isBatch = true
  level : batch.context.level = levels.1
  serialLevel : batch.context.serialLevel = levels.2
  plain : batch.context.statements = (Queued.part queue false).map (·.pending)
  counters : batch.context.counterStatements = (Queued.part queue true).map (·.pending)
  each : ∀ entry ∈ queue, entry.Levelled manager levels

theorem EntityManager.Stamps.levels {schema : EntitySchema} {options asked : WriteOptions}
    {context stamped : FlushContext} {world ticked : World}
    (stamps : Stamps schema options context world (.ok asked) stamped ticked) :
    asked.level = options.level ∧ asked.serialLevel = options.serialLevel := by
  cases stamps <;> exact ⟨rfl, rfl⟩

theorem EntityManager.askedLevel_batch (options : WriteOptions) (statement : GeneratedStatement) :
    askedLevel options true statement = options.level := by
  simp [askedLevel]

theorem Carried.exists_first {dispatch : Dispatch} {rest : List Dispatch} {answers : Nat → Answer}
    {exchanges : List Exchange} {outcome : Except WriteError Outcome}
    (carried : Carried (dispatch :: rest) answers exchanges outcome) :
    ∃ later, exchanges = ⟨dispatch, answers 0⟩ :: later := by
  cases carried with
  | stopped => exact ⟨[], rfl⟩
  | onward => exact ⟨_, rfl⟩

namespace BatchOperation

variable {batch : Batch} {world : World} {operation : BatchOperation}
  {statements : List PendingStatement} {callbacks : List Callback}

theorem about_inBatch {operation : Operation} {origin : Option EntitySchema}
    (about : About batch world operation.inBatch origin) :
    ∃ name schema, operation.entityName world = .ok name ∧
      Keyed.get? batch.manager.registry name = some schema ∧ origin = some schema := by
  generalize same : operation.inBatch = given at about
  cases about with
  | entity named known =>
      obtain rfl := Operation.inBatch_inj same
      exact ⟨_, _, named, known, rfl⟩
  | native => cases operation <;> cases same

theorem about_native {query : String} {values : List CqlValue} {origin : Option EntitySchema}
    (about : About batch world (.native query values) origin) : origin = none := by
  generalize same : BatchOperation.native query values = given at about
  cases about with
  | @entity operation => cases operation <;> cases same
  | native => rfl

theorem Makes.exists_about (makes : operation.Makes batch world statements callbacks) :
    ∃ origin, operation.About batch world origin := by
  cases makes with
  | operation makes =>
      obtain ⟨⟨named, known, _⟩, _⟩ := makes
      exact ⟨_, .entity named known⟩
  | native => exact ⟨_, .native _ _⟩

/-- A level that an operation asks for is that of the session already. -/
theorem generated_levelled {options asked : WriteOptions} {schema : EntitySchema}
    (accepts : batch.AtLevels options)
    (same : asked.level = options.level ∧ asked.serialLevel = options.serialLevel)
    (statement : GeneratedStatement) :
    (Queued.mk (some schema) (batch.manager.pendingOf schema asked true statement)).Levelled
      batch.manager (batch.context.level, batch.context.serialLevel) := by
  obtain ⟨level, serialLevel⟩ := same
  refine ⟨?_, ?_, ?_⟩
  · intro written
    cases written
  · intro schema generated
    cases generated
    rw [EntityManager.pendingOf, EntityManager.askedLevel_batch, level]
    cases given : options.level with
    | none => rfl
    | some fixed => rw [accepts.level fixed given, Option.getD_some, Option.getD_some]
  · intro _
    rw [EntityManager.pendingOf, serialLevel]
    cases given : options.serialLevel with
    | none => rfl
    | some fixed => rw [accepts.serialLevel fixed given, Option.some_or, Option.some_or]

theorem native_levelled (batch : Batch) (query : String) (values : List CqlValue) :
    (Queued.mk none (batch.nativeStatement query values)).Levelled batch.manager
      (batch.context.level, batch.context.serialLevel) := by
  refine ⟨fun _ => ⟨rfl, rfl⟩, ?_, ?_⟩
  · intro schema generated
    cases generated
  · intro generated
    cases generated

theorem Makes.levelled {origin : Option EntitySchema} (batched : batch.context.isBatch = true)
    (makes : operation.Makes batch world statements callbacks)
    (about : operation.About batch world origin) (accepts : batch.AtLevels operation.options) :
    ∀ pending ∈ statements, (Queued.mk origin pending).Levelled batch.manager
      (batch.context.level, batch.context.serialLevel) := by
  intro pending member
  cases makes with
  | @operation operation _ _ makes =>
      obtain ⟨name, schema, named, known, rfl⟩ := about_inBatch about
      cases makes with
      | made generates pends =>
          obtain ⟨alsoNamed, alsoKnown, faultless, stamps, generated⟩ := generates
          rw [named] at alsoNamed
          cases alsoNamed
          rw [known] at alsoKnown
          cases alsoKnown
          rw [← EntityManager.forall₂_pends_iff.mp pends] at member
          obtain ⟨statement, _, rfl⟩ := List.mem_map.mp member
          rw [Batch.options_inBatch] at accepts
          rw [batched]
          exact generated_levelled accepts stamps.levels statement
  | native accepted written =>
      obtain rfl := about_native about
      rw [List.mem_singleton.mp member, ← Batch.handWritten_iff.mp written]
      exact native_levelled _ _ _

end BatchOperation

namespace Batch

variable {manager : EntityManager} {levels : Option Level × Option Level} {queue : List Queued}
  {batch : Batch} {world : World}

theorem Carries.emptied (carries : batch.Carries manager levels queue) :
    batch.clean.Carries manager levels [] :=
  ⟨carries.own, carries.batched, carries.level, carries.serialLevel, rfl, rfl,
    List.forall_mem_nil _⟩

theorem Carries.adds {origin : Option EntitySchema} {after : Batch}
    {statements : List PendingStatement} {callbacks : List Callback}
    (carries : batch.Carries manager levels queue) (own : after.manager = batch.manager)
    (adds : batch.context.Adds after.context statements callbacks)
    (levelled : ∀ pending ∈ statements, (Queued.mk origin pending).Levelled manager levels) :
    after.Carries manager levels (queue ++ statements.map (Queued.mk origin)) := by
  refine ⟨own.trans carries.own, ?_, adds.level.trans carries.level,
    adds.serialLevel.trans carries.serialLevel, ?_, ?_, ?_⟩
  · rw [FlushContext.isBatch, adds.mode]
    exact carries.batched
  · rw [adds.plain, carries.plain, Queued.part, Queued.part, List.filter_append, List.map_append,
      List.filter_map, List.map_map]
    simp [Function.comp_def]
  · rw [adds.counters, carries.counters, Queued.part, Queued.part, List.filter_append,
      List.map_append, List.filter_map, List.map_map]
    simp [Function.comp_def]
  · refine List.forall_mem_append.mpr ⟨carries.each, ?_⟩
    intro entry member
    obtain ⟨pending, among, rfl⟩ := List.mem_map.mp member
    exact levelled pending among

theorem Waits.carries (waits : batch.Waits manager levels queue) :
    batch.Carries manager levels queue := by
  induction waits with
  | started ordered unlogged level serialLevel =>
      refine ⟨rfl, ?_, rfl, rfl, rfl, rfl, List.forall_mem_nil _⟩
      cases ordered <;> rfl
  | @queued levels queue batch operation world origin statements callbacks _ performed about makes
      carries =>
      obtain ⟨own, effect⟩ := batch.perform_effect operation world
      have accepts : batch.AtLevels operation.options := by
        rw [performed] at effect
        cases effect with
        | performed accepts => exact accepts
      have levelled := makes.levelled carries.batched about accepts
      rw [carries.own, carries.level, carries.serialLevel] at levelled
      exact carries.adds own (perform_queued performed makes) levelled
  | @failed levels queue batch operation world error _ fails accepts carries =>
      obtain ⟨own, _⟩ := batch.perform_effect operation world
      have unchanged : (batch.perform operation world).2.1.Carries manager levels
          (queue ++ [].map (Queued.mk none)) :=
        carries.adds own (perform_failed fails accepts) (List.forall_mem_nil _)
      rwa [List.map_nil, List.append_nil] at unchanged
  | refused _ refuses world carries =>
      rw [perform_refused refuses]
      exact carries.emptied
  | cleaned _ carries | flushed _ _ carries | handedOver _ _ _ carries => exact carries.emptied
  | restarted _ level serialLevel carries =>
      exact ⟨carries.own, carries.batched, rfl, rfl, rfl, rfl, List.forall_mem_nil _⟩

theorem Waits.perform (waits : batch.Waits manager levels queue) (operation : BatchOperation)
    (world : World) :
    ∃ queue, (batch.perform operation world).2.1.Waits manager levels queue := by
  cases refusal : batch.refusal? operation.options with
  | some fault => exact ⟨_, waits.refused refusal world⟩
  | none =>
      obtain ⟨_, effect⟩ := batch.perform_effect operation world
      cases result : (batch.perform operation world).1 with
      | error error => exact ⟨_, waits.failed result refusal⟩
      | ok =>
          rw [result] at effect
          cases effect with
          | performed _ _ makes =>
              obtain ⟨origin, about⟩ := makes.exists_about
              exact ⟨_, waits.queued result about makes⟩

/-- Whatever is called on a batch, there is a record of what waits in it. -/
theorem exists_waits (manager : EntityManager) (ordered unlogged : Bool)
    (level serialLevel : Option Level) (calls : List (Action × World)) :
    ∃ levels queue,
      ((start manager ordered unlogged level serialLevel).follow calls).Waits manager levels
        queue := by
  have follows {batch : Batch} {levels : Option Level × Option Level} {queue : List Queued}
      (waits : batch.Waits manager levels queue) :
      ∃ levels queue, (batch.follow calls).Waits manager levels queue := by
    unfold follow
    induction calls generalizing batch levels queue with
    | nil => exact ⟨levels, queue, waits⟩
    | cons call rest ih =>
        obtain ⟨action, world⟩ := call
        cases action with
        | operation operation =>
            obtain ⟨_, next⟩ := waits.perform operation.inBatch world
            exact ih next
        | native query values =>
            obtain ⟨_, next⟩ := waits.perform (.native query values) world
            exact ih next
        | clean => exact ih waits.cleaned
        | restart level serialLevel => exact ih (waits.restarted level serialLevel)
        | flush => exact ih (waits.flushed world)
        | flushAsync tasks => exact ih (waits.handedOver tasks world)
  exact follows (.started ordered unlogged level serialLevel)

theorem Carries.envelope_ledBy (carries : batch.Carries manager levels queue) (type : BatchType)
    (first : Queued) (rest : List Queued) (tracing : Bool) :
    Submission.LedBy levels first rest (.batch (batch.context.envelope type first.pending
      ((first :: rest).map (·.pending)) tracing)) := by
  refine .batch ?_ ?_ ?_
  · simp [FlushContext.envelope]
  · rw [← carries.level]
    rfl
  · rw [← carries.serialLevel]
    rfl

theorem Carries.enveloped_ledBy (carries : batch.Carries manager levels queue) {type : BatchType}
    {entries : List Queued} {tracing : Bool} {dispatch : Dispatch}
    (member : dispatch ∈ batch.context.enveloped type (entries.map (·.pending)) tracing) :
    ∃ first rest, entries = first :: rest ∧ dispatch.submission.LedBy levels first rest := by
  cases entries with
  | nil => cases member
  | cons first rest =>
      refine ⟨first, rest, rfl, ?_⟩
      rw [List.mem_singleton.mp member]
      exact carries.envelope_ledBy type first rest tracing

/-- A run sends at most one envelope for either part of what waits, that of the plain part before
any other. -/
theorem Carries.sends (carries : batch.Carries manager levels queue) (world : World) :
    ∃ sent, (batch.context.run world).2.executed = world.executed ++ sent ∧
      (∀ submission ∈ sent, ∃ counter first rest,
        Queued.part queue counter = first :: rest ∧ submission.LedBy levels first rest) ∧
      ∀ first rest, Queued.part queue false = first :: rest →
        ∃ submission ∈ sent, submission.LedBy levels first rest := by
  obtain ⟨exchanges, ⟨outcome, carried⟩, executed⟩ := batch.context.exists_sends world
  rw [FlushContext.dispatches_of_isBatch carries.batched, carries.plain, carries.counters]
    at carried
  refine ⟨_, executed, ?_, ?_⟩
  · intro submission member
    obtain ⟨exchange, among, rfl⟩ := List.mem_map.mp member
    have dispatched := carried.isPrefix.subset (List.mem_map_of_mem among)
    rcases List.mem_append.mp dispatched with plain | counters
    · exact ⟨false, carries.enveloped_ledBy plain⟩
    · exact ⟨true, carries.enveloped_ledBy counters⟩
  · intro first rest plain
    rw [plain] at carried
    obtain ⟨later, rfl⟩ := carried.exists_first
    exact ⟨_, List.mem_map_of_mem List.mem_cons_self, carries.envelope_ledBy _ first rest _⟩

end Batch

end CqlMapper
