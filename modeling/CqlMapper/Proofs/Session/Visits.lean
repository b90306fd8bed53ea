import CqlMapper.Session.Tasks
import CqlMapper.Proofs.Session.Preparing

/-!
Batch sessions as sequences of calls, each made in a world of its own.
-/

namespace CqlMapper

inductive Action where
  | operation (operation : Operation)
  | native (query : String) (values : List CqlValue)
  | clean
  | restart (level serialLevel : Option Level)
  | flush
  | flushAsync (tasks : Tasks)

def Operation.inBatch : Operation → BatchOperation
  | .write kind entity options => .write kind entity options
  | .removeById entity key options => .removeById entity key options

structure Visit where
  batch : Batch
  action : Action
  world : World

namespace Visit

def after (visit : Visit) : Batch :=
  match visit.action with
  | .operation operation => (visit.batch.perform operation.inBatch visit.world).2.1
  | .native query values => (visit.batch.perform (.native query values) visit.world).2.1
  | .clean => visit.batch.clean
  | .restart level serialLevel => visit.batch.restart level serialLevel
  | .flush => (visit.batch.flush visit.world).2.1
  | .flushAsync tasks => (visit.batch.flushAsync tasks visit.world).2.1

end Visit

/-- The calls of a session. The world of each is arbitrary: the store, the clock, other sessions and
the application itself may change it between two calls. -/
def visits (batch : Batch) : List (Action × World) → List Visit
  | [] => []
  | (action, world) :: rest =>
    let visit : Visit := ⟨batch, action, world⟩
    visit :: visits visit.after rest

def Batch.follow (batch : Batch) (calls : List (Action × World)) : Batch :=
  calls.foldl (fun batch call => (Visit.mk batch call.1 call.2).after) batch

namespace Visit

variable {visit : Visit} {operation : Operation}

theorem after_guarded (chosen : visit.action = .operation operation) :
    visit.after = (visit.batch.guarded operation.options visit.world
      (operation.prepare visit.batch.manager)).2.1 := by
  rw [after, chosen]
  cases operation <;> rfl

/-- An operation whose options the batch refuses empties it; any other is prepared. -/
theorem after_operation (visit : Visit) (chosen : visit.action = .operation operation) :
    visit.after = visit.batch.clean ∨ ∃ result context final,
      visit.after = { visit.batch with context := context } ∧
        operation.Ends visit.batch.manager visit.batch.context visit.world result context
          final := by
  rw [after_guarded chosen, Batch.guarded]
  cases visit.batch.refusal? operation.options with
  | some fault => exact Or.inl rfl
  | none =>
      have ends := operation.prepare_ends visit.batch.manager visit.batch.context visit.world
      exact Or.inr ⟨_, _, _, rfl, ends⟩

end Visit

/-- What pending work looks like at any time: counters are kept apart, and only callbacks of post
events wait. -/
structure FlushContext.Orderly (context : FlushContext) : Prop where
  plain : ∀ pending ∈ context.statements, pending.counter = false
  post : ∀ callback ∈ context.callbacks, callback.event.isPost = true

namespace FlushContext

variable {context after : FlushContext} {statements : List PendingStatement}
  {callbacks : List Callback}

theorem orderly_of_empty (statements : context.statements = [])
    (callbacks : context.callbacks = []) : context.Orderly := by
  refine ⟨?_, ?_⟩
  · rw [statements]
    exact List.forall_mem_nil _
  · rw [callbacks]
    exact List.forall_mem_nil _

theorem Adds.plain_only (adds : context.Adds after statements callbacks)
    (plain : ∀ pending ∈ context.statements, pending.counter = false) :
    ∀ pending ∈ after.statements, pending.counter = false := by
  rw [adds.plain]
  refine List.forall_mem_append.mpr ⟨plain, ?_⟩
  intro pending member
  simpa using (List.mem_filter.mp member).2

theorem Adds.orderly (adds : context.Adds after statements callbacks) (orderly : context.Orderly)
    (post : ∀ callback ∈ callbacks, callback.event.isPost = true) : after.Orderly := by
  refine ⟨adds.plain_only orderly.plain, ?_⟩
  rw [adds.deferred]
  exact List.forall_mem_append.mpr ⟨orderly.post, post⟩

end FlushContext

theorem Operation.Queues.orderly {operation : Operation} {manager : EntityManager}
    {context after : FlushContext} {world final : World} {result : Except WriteError Unit}
    (queues : operation.Queues manager context world result after final)
    (orderly : context.Orderly) : after.Orderly := by
  cases queues with
  | refused => exact orderly
  | failed stamps store => exact stamps.adds.orderly orderly (List.forall_mem_nil _)
  | queued admits stamps generated adds post clock store => exact adds.orderly orderly post

theorem Visit.orderly_after (visit : Visit) (orderly : visit.batch.context.Orderly) :
    visit.after.context.Orderly := by
  obtain ⟨batch, action, world⟩ := visit
  cases action with
  | operation operation =>
      rcases after_operation ⟨batch, .operation operation, world⟩ rfl with
        emptied | ⟨result, context, final, prepared, ends⟩
      · rw [emptied]
        exact FlushContext.orderly_of_empty rfl rfl
      · rw [prepared]
        exact ends.queues.orderly orderly
  | native query values =>
      simp only [after, Batch.perform]
      split
      · have adds := batch.context.adds_push (batch.nativeStatement query values)
        exact adds.orderly orderly (List.forall_mem_nil _)
      · exact orderly
  | clean | restart | flush | flushAsync => exact FlushContext.orderly_of_empty rfl rfl

theorem Batch.orderly_follow {batch : Batch} (orderly : batch.context.Orderly)
    (calls : List (Action × World)) : (batch.follow calls).context.Orderly := by
  unfold follow
  induction calls generalizing batch with
  | nil => exact orderly
  | cons call rest ih =>
      exact ih (Visit.orderly_after ⟨batch, call.1, call.2⟩ orderly)

def Batch.Reached (batch : Batch) : Prop :=
  ∃ manager ordered unlogged level serialLevel calls,
    batch = (Batch.start manager ordered unlogged level serialLevel).follow calls

theorem Batch.Reached.orderly {batch : Batch} (reached : batch.Reached) :
    batch.context.Orderly := by
  obtain ⟨manager, ordered, unlogged, level, serialLevel, calls, rfl⟩ := reached
  exact orderly_follow (FlushContext.orderly_of_empty rfl rfl) calls

end CqlMapper
