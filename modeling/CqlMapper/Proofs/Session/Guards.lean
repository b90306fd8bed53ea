import CqlMapper.Proofs.Session.Flushing
import CqlMapper.Proofs.Session.Visits
import CqlMapper.Proofs.Statement.Conditions

/-!
Conditional updates. Increments of counters have no conditions of their own and rely on the plain
statements of their operation, which go first; an operation that has none sends them unguarded.
-/

namespace CqlMapper

def Dispatch.Faithful (dispatch : Dispatch) : Prop :=
  ∀ pending ∈ dispatch.pending,
    ∃ statement ∈ dispatch.submission.statements, statement.query = pending.query

namespace FlushContext

theorem pending_enveloped (context : FlushContext) (type : BatchType)
    (statements : List PendingStatement) (tracing : Bool) :
    (context.enveloped type statements tracing).flatMap (·.pending) = statements := by
  cases statements <;> simp [enveloped]

theorem faithful_enveloped (context : FlushContext) (type : BatchType)
    (statements : List PendingStatement) (tracing : Bool) :
    ∀ dispatch ∈ context.enveloped type statements tracing, dispatch.Faithful := by
  unfold enveloped
  rw [List.forall_mem_map]
  intro first _ pending member
  exact ⟨pending.batched, List.mem_map_of_mem member, rfl⟩

structure DispatchesInTurn (context : FlushContext) (tracing : Bool)
    (plain counters : List Dispatch) : Prop where
  split : context.dispatches tracing = plain ++ counters
  plain_pending : plain.flatMap (·.pending) = context.statements
  counter_pending : counters.flatMap (·.pending) = context.counterStatements
  faithful : ∀ dispatch ∈ plain, dispatch.Faithful

theorem dispatches_in_turn (context : FlushContext) (tracing : Bool) :
    ∃ plain counters, context.DispatchesInTurn tracing plain counters := by
  let single (pending : PendingStatement) : Dispatch :=
    ⟨[pending], .single (pending.single tracing)⟩
  have alone (statements : List PendingStatement) :
      (statements.map single).flatMap (·.pending) = statements := by
    simp [single, List.flatMap_map]
  cases mode : context.mode with
  | immediate =>
      refine ⟨context.statements.map single, context.counterStatements.map single, ?_,
        alone context.statements, alone context.counterStatements, ?_⟩
      · rw [dispatches, mode]
        exact List.map_append
      · rw [List.forall_mem_map]
        intro sent _ pending member
        rw [List.mem_singleton.mp member]
        exact ⟨sent.single tracing, List.mem_singleton_self _, rfl⟩
  | batch | orderedBatch =>
      refine ⟨context.enveloped context.batchType context.statements tracing,
        context.enveloped .counter context.counterStatements tracing, ?_,
        context.pending_enveloped _ _ _, context.pending_enveloped _ _ _,
        context.faithful_enveloped _ _ _⟩
      rw [dispatches, mode]

end FlushContext

/-- Before any of the counters is sent, one of the guarded statements has been, and was accepted. -/
def GuardedFirst (guarded counters : List PendingStatement) (exchanges : List Exchange) : Prop :=
  ∀ before exchange after, exchanges = before ++ exchange :: after →
    (∃ pending ∈ counters, pending ∈ exchange.dispatch.pending) →
    ∃ other ∈ before, (∃ pending ∈ guarded, pending ∈ other.dispatch.pending) ∧
      other.answer.Accepts

theorem guardedFirst_of_mem {work : FlushContext} {world : World} {exchanges : List Exchange}
    {guarded counters : List PendingStatement} (sends : work.Sends world exchanges)
    (sorted : ∀ pending ∈ work.statements, pending.counter = false)
    (counter : ∀ pending ∈ counters, pending.counter = true) {guard : PendingStatement}
    (member : guard ∈ guarded) (queued : guard ∈ work.statements)
    (conditional : isConditionalQuery guard.query = true) :
    GuardedFirst guarded counters exchanges := by
  obtain ⟨outcome, carried⟩ := sends.carried
  obtain ⟨plain, later, turn⟩ := work.dispatches_in_turn world.tracing
  intro before exchange after split ⟨increment, among, sent⟩
  have notPlain : exchange.dispatch ∉ plain := by
    intro early
    have listed : increment ∈ work.statements := by
      rw [← turn.plain_pending]
      exact List.mem_flatMap.mpr ⟨exchange.dispatch, early, sent⟩
    have other := sorted increment listed
    rw [counter increment among] at other
    cases other
  have passed : plain <+: before.map (·.dispatch) := by
    obtain ⟨rest, whole⟩ := carried.isPrefix
    rw [split, turn.split, List.map_append, List.map_cons, List.append_assoc,
      List.append_eq_append_iff] at whole
    rcases whole with ⟨others, plainly, here⟩ | ⟨others, passed, _⟩
    · cases others with
      | nil => exact ⟨[], by simpa using plainly⟩
      | cons next others =>
          obtain ⟨same, _⟩ := List.cons.inj here
          refine absurd ?_ notPlain
          rw [plainly, ← same]
          exact List.mem_append_right _ List.mem_cons_self
    · exact ⟨others, passed.symm⟩
  rw [← turn.plain_pending] at queued
  obtain ⟨dispatch, early, holds⟩ := List.mem_flatMap.mp queued
  obtain ⟨other, earlier, rfl⟩ := List.mem_map.mp (passed.subset early)
  obtain ⟨statement, stated, query⟩ := turn.faithful _ early guard holds
  refine ⟨other, earlier, ⟨guard, member, holds⟩, ?_⟩
  rw [← query] at conditional
  exact (carried.applied_before split other earlier).accepts stated conditional

/-- When an increment is sent without a guard, a store that applies everything shows it. -/
theorem unguarded_of_mem {work : FlushContext} {world : World} {exchanges : List Exchange}
    {counters : List PendingStatement} (sends : work.Sends world exchanges)
    (quiet : world.backend = Backend.empty) {increment : PendingStatement}
    (member : increment ∈ counters) (queued : increment ∈ work.counterStatements) :
    ¬ GuardedFirst [] counters exchanges := by
  intro guarded
  obtain ⟨outcome, carried⟩ := sends.carried
  obtain ⟨plain, later, turn⟩ := work.dispatches_in_turn world.tracing
  have answers : world.answers = fun _ => .ok ResultSet.empty := by
    unfold World.answers
    rw [quiet]
    rfl
  obtain rfl := carried.applied_of_empty answers
  rw [← turn.counter_pending] at queued
  obtain ⟨dispatch, last, holds⟩ := List.mem_flatMap.mp queued
  have sent : dispatch ∈ exchanges.map (·.dispatch) := by
    rw [carried.complete, turn.split]
    exact List.mem_append_right plain last
  obtain ⟨exchange, exchanged, rfl⟩ := List.mem_map.mp sent
  obtain ⟨before, after, split⟩ := List.append_of_mem exchanged
  obtain ⟨other, _, ⟨guard, missing, _⟩, _⟩ :=
    guarded before exchange after split ⟨increment, member, holds⟩
  cases missing

namespace EntityManager

theorem Stamps.conditions {schema : EntitySchema} {options asked : WriteOptions}
    {context stamped : FlushContext} {world ticked : World}
    (stamps : Stamps schema options context world (.ok asked) stamped ticked) :
    asked.conditions = options.conditions := by
  cases stamps <;> rfl

end EntityManager

def FlushContext.Reachable (context : FlushContext) : Prop :=
  context = .immediate ∨ ∃ batch : Batch, batch.Reached ∧ batch.context = context

theorem FlushContext.Reachable.orderly {context : FlushContext} (reachable : context.Reachable) :
    context.Orderly := by
  rcases reachable with rfl | ⟨batch, reached, rfl⟩
  · exact orderly_of_empty rfl rfl
  · exact reached.orderly

namespace EntityManager

structure Guards (manager : EntityManager) (schema : EntitySchema) (asked : WriteOptions)
    (isBatch : Bool) (statement : GeneratedStatement) (pending : PendingStatement) : Prop
    extends manager.Pends schema asked isBatch statement pending where
  plain : statement.counter = false
  conditions : statement.write.conditions ≠ []

structure Increments (manager : EntityManager) (schema : EntitySchema) (asked : WriteOptions)
    (isBatch : Bool) (statement : GeneratedStatement) (pending : PendingStatement) : Prop
    extends manager.Pends schema asked isBatch statement pending where
  counts : statement.counter = true
  unconditional : statement.write.conditions = []

end EntityManager

/-- The statements generated for a conditional update, and when its increments are guarded. -/
structure ConditionalUpdate (manager : EntityManager) (entity : EntityRef) (options : WriteOptions)
    (context queued : FlushContext) (world : World) (changes : List PropertyChange)
    (schema : EntitySchema) (asked : WriteOptions) (updates additions : List GeneratedStatement)
    (guarded counters : List PendingStatement) : Prop where
  generates : (Operation.write .update entity options).Generates manager context world schema asked
    (updates ++ additions)
  plain : queued.statements = context.statements ++ guarded
  increments : queued.counterStatements = context.counterStatements ++ counters
  conditional : List.Forall₂ (manager.Guards schema asked context.isBatch) updates guarded
  unconditional : List.Forall₂ (manager.Increments schema asked context.isBatch) additions counters
  guarded_iff : (∀ work more further, queued.Adds work more further → ∀ world exchanges,
      work.Sends world exchanges → GuardedFirst guarded counters exchanges) ↔
    changes = [] ∨ ∃ change ∈ changes, schema.counts change = false

section

variable {schema : EntitySchema} {asked : WriteOptions}
  {changes : List PropertyChange} {plain counters : List GeneratedStatement}

theorem EntitySchema.ChangeParts.conditional
    (parts : schema.ChangeParts asked changes plain counters)
    (conditional : asked.conditions ≠ []) (manager : EntityManager) (isBatch : Bool) :
    List.Forall₂ (manager.Guards schema asked isBatch) plain
      (plain.map (manager.pendingOf schema asked isBatch)) := by
  refine List.forall₂_map_right_iff.mpr (List.forall₂_same.mpr ?_)
  intro statement member
  have updates := parts.updates statement member
  refine ⟨EntityManager.pends_iff.mpr rfl, updates.counter, ?_⟩
  intro none
  have resolved := updates.conditions
  rw [none, List.forall₂_nil_right_iff] at resolved
  exact conditional resolved

theorem EntitySchema.ChangeParts.unconditional
    (parts : schema.ChangeParts asked changes plain counters) (manager : EntityManager)
    (isBatch : Bool) :
    List.Forall₂ (manager.Increments schema asked isBatch) counters
      (counters.map (manager.pendingOf schema asked isBatch)) := by
  refine List.forall₂_map_right_iff.mpr (List.forall₂_same.mpr ?_)
  intro statement member
  have increments := parts.increments statement member
  exact ⟨EntityManager.pends_iff.mpr rfl, increments.counter, increments.conditions⟩

theorem EntityManager.Guards.recognized {manager : EntityManager} {isBatch : Bool}
    {statement : GeneratedStatement} {pending : PendingStatement}
    (guards : manager.Guards schema asked isBatch statement pending) :
    pending.counter = false ∧ isConditionalQuery pending.query = true := by
  rw [guards.counter, guards.query]
  exact ⟨guards.plain, WriteStatement.isConditionalQuery_of_conditions guards.conditions⟩

theorem EntitySchema.ChangeParts.unsplit_iff
    (parts : schema.ChangeParts asked changes plain counters) :
    ¬ plain = [] ∨ counters = [] ↔
      changes = [] ∨ ∃ change ∈ changes, schema.counts change = false := by
  rw [parts.plain_nil, parts.counters_nil]
  constructor
  · rintro (mixed | uncounted)
    · right
      simpa using mixed
    · cases changes with
      | nil => exact Or.inl rfl
      | cons first rest =>
          exact Or.inr ⟨first, List.mem_cons_self, uncounted first List.mem_cons_self⟩
  · rintro (rfl | ⟨change, member, plain⟩)
    · exact Or.inr (List.forall_mem_nil _)
    · refine Or.inl fun counted => ?_
      rw [counted change member] at plain
      cases plain

end

/-- The guards of an operation go into one queue and its counters into the other. -/
theorem FlushContext.Adds.sorted {context queued : FlushContext}
    {guarded counters : List PendingStatement} {callbacks : List Callback}
    (adds : context.Adds queued (guarded ++ counters) callbacks)
    (guards : ∀ pending ∈ guarded, pending.counter = false)
    (increments : ∀ pending ∈ counters, pending.counter = true) :
    queued.statements = context.statements ++ guarded ∧
      queued.counterStatements = context.counterStatements ++ counters := by
  have plain : (guarded ++ counters).filter (fun pending => !pending.counter) = guarded := by
    rw [List.filter_append, List.filter_eq_self.mpr (by simpa using guards),
      List.filter_eq_nil_iff.mpr (by simpa using increments), List.append_nil]
  have counted : (guarded ++ counters).filter (fun pending => pending.counter) = counters := by
    rw [List.filter_append, List.filter_eq_nil_iff.mpr (by simpa using guards),
      List.filter_eq_self.mpr increments, List.nil_append]
  rw [adds.plain, adds.counters, plain, counted]
  exact ⟨rfl, rfl⟩

theorem always_guarded_iff {context queued : FlushContext}
    {guarded counters : List PendingStatement} {callbacks : List Callback}
    (orderly : context.Orderly) (adds : context.Adds queued (guarded ++ counters) callbacks)
    (guards : ∀ pending ∈ guarded,
      pending.counter = false ∧ isConditionalQuery pending.query = true)
    (increments : ∀ pending ∈ counters, pending.counter = true) :
    (∀ work more further, queued.Adds work more further → ∀ later exchanges,
        work.Sends later exchanges → GuardedFirst guarded counters exchanges) ↔
      guarded ≠ [] ∨ counters = [] := by
  obtain ⟨plain, counted⟩ :=
    adds.sorted (fun pending member => (guards pending member).1) increments
  constructor
  · intro always
    by_contra unguarded
    obtain ⟨unguided, counts⟩ := not_or.mp unguarded
    obtain rfl : guarded = [] := not_not.mp unguided
    obtain ⟨increment, member⟩ := List.exists_mem_of_ne_nil _ counts
    let quiet : World := ⟨[], Backend.empty, ⟨fun _ => 0, 0⟩, false, []⟩
    obtain ⟨exchanges, sends⟩ := queued.exists_sends quiet
    have listed : increment ∈ queued.counterStatements := by
      rw [counted]
      exact List.mem_append_right _ member
    exact unguarded_of_mem sends rfl member listed
      (always queued [] [] (.refl queued) quiet exchanges sends)
  · intro safe work more further grown later exchanges sends
    rcases safe with present | nothing
    · obtain ⟨guard, member⟩ := List.exists_mem_of_ne_nil _ present
      have listed : guard ∈ work.statements := by
        rw [grown.plain, plain]
        exact List.mem_append_left _ (List.mem_append_right _ member)
      exact guardedFirst_of_mem sends (grown.plain_only (adds.plain_only orderly.plain)) increments
        member listed (guards guard member).2
    · subst counters
      rintro before exchange after split ⟨increment, missing, _⟩
      cases missing

/-- A conditional update sends its increments only after a guard that the store has accepted, in
every run and whatever the store answers, just when it has a plain change to write as well or no
change at all. -/
theorem conditionalUpdate_guarded_iff {manager : EntityManager} {entity : EntityRef}
    {options : WriteOptions} {context queued : FlushContext} {world final : World}
    (reachable : context.Reachable) (conditional : options.conditions ≠ [])
    (updated : manager.prepare .update entity options context world = (.ok (), queued, final)) :
    ∃ record schema asked updates additions guarded counters,
      manager.Admits .update entity options world record schema ∧
      ConditionalUpdate manager entity options context queued world
        (schema.intercept .preUpdate record).dirtyChanges schema asked updates additions guarded
        counters := by
  have prepares := manager.prepare_prepares .update entity options context world
  rw [updated] at prepares
  cases prepares with
  | @queued record schema asked _ _ _ _ _ admits stamps generated adds clock clean store =>
      obtain ⟨plain, counters, rfl, parts⟩ := EntitySchema.changeStatements_parts generated
      rw [← stamps.conditions] at conditional
      have guards := parts.conditional conditional manager context.isBatch
      have increments := parts.unconditional manager context.isBatch
      have recognized : ∀ pending ∈ plain.map (manager.pendingOf schema asked context.isBatch),
          pending.counter = false ∧ isConditionalQuery pending.query = true := by
        intro pending member
        obtain ⟨_, _, guard⟩ := Outcome.exists_left guards member
        exact guard.recognized
      have counted : ∀ pending ∈ counters.map (manager.pendingOf schema asked context.isBatch),
          pending.counter = true := by
        intro pending member
        obtain ⟨_, _, increment⟩ := Outcome.exists_left increments member
        exact increment.counter.trans increment.counts
      rw [List.map_append] at adds
      obtain ⟨plainly, apart⟩ :=
        adds.sorted (fun pending member => (recognized pending member).1) counted
      have admitted : (Operation.write .update entity options).admitted manager world =
          .ok schema := admits.checked
      have made := (Operation.generation_write admits.locked options asked schema).trans generated
      have generates := Operation.generates_of_admitted admitted stamps made
      have always := always_guarded_iff reachable.orderly adds recognized counted
      refine ⟨record, schema, asked, plain, counters, _, _, admits, generates, plainly, apart,
        guards, increments, always.trans ?_⟩
      rw [ne_eq, List.map_eq_nil_iff, List.map_eq_nil_iff]
      exact parts.unsplit_iff

def loginSchema : EntitySchema :=
  ⟨"User", "users",
    [⟨"id", "id", .partitionKey, ⟨.int, .simple (.native .int)⟩, none⟩,
      ⟨"name", "name", .plain, ⟨.text, .simple (.native .text)⟩, none⟩,
      ⟨"logins", "logins", .counter, ⟨.counter, .simple .counter⟩, none⟩],
    none, none, none, none, []⟩

def loginManager : EntityManager :=
  ⟨[("User", loginSchema)], Config.standard⟩

def whileAnn : WriteOptions :=
  { WriteOptions.standard with conditions := [⟨"name", .eq, .text "Ann"⟩] }

def loginWorld (renamed : Bool) : World where
  cells :=
    let ann := (Record.loaded "User" [("id", .int 1), ("name", .text "Ann")]).increment "logins" 1
    [⟨if renamed then ann.set "name" (.text "Anna") else ann, false⟩]
  backend := ⟨⟨[], [.ok (.single
    ((Row.applied false).withColumn "name" .text (.text "Helen")))]⟩, none⟩
  wall := ⟨fun _ => 0, 0⟩
  tracing := false
  notices := []

theorem conditionalUpdate_guarded_iff_renamed :
    FlushContext.immediate.Reachable ∧ whileAnn.conditions ≠ [] ∧
      (loginManager.prepare .update 0 whileAnn .immediate (loginWorld true)).1 = .ok () ∧
      ∃ record schema asked updates additions guarded counters,
        loginManager.Admits .update 0 whileAnn (loginWorld true) record schema ∧
        ConditionalUpdate loginManager 0 whileAnn .immediate
          (loginManager.prepare .update 0 whileAnn .immediate (loginWorld true)).2.1
          (loginWorld true) (schema.intercept .preUpdate record).dirtyChanges schema asked updates
          additions guarded counters := by
  have reachable : FlushContext.immediate.Reachable := Or.inl rfl
  have conditional : whileAnn.conditions ≠ [] := List.cons_ne_nil _ _
  exact ⟨reachable, conditional, rfl, conditionalUpdate_guarded_iff reachable conditional
    (show loginManager.prepare .update 0 whileAnn .immediate (loginWorld true) = (.ok (), _, _)
      from rfl)⟩

/-- With nothing but the counter changed, the increment is sent although the condition does not
hold, and the update is taken as applied. -/
theorem increment_unguarded :
    (loginManager.write .update 0 whileAnn (loginWorld false)).1 = .ok .applied ∧
      (loginManager.write .update 0 whileAnn (loginWorld false)).2.executed =
        [.single ⟨"UPDATE users_counters SET logins = logins + ? WHERE id = ?",
          [.bigInt 1, .int 1], some .one, none, false⟩] := by
  exact ⟨rfl, rfl⟩

end CqlMapper
