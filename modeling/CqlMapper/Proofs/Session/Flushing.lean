import CqlMapper.Proofs.Session.Callbacks
import CqlMapper.Proofs.Session.Gathering

/-!
The flush of a batch: at most one envelope of plain statements and one of counters, then the
callbacks if all was applied, and in any case nothing is left pending.
-/

namespace CqlMapper

namespace FlushContext

inductive Entry where
  | statement (pending : PendingStatement)
  | occasion (entity : EntityRef) (schema : EntitySchema) (event : Event)
      (post : event.isPost = true)

namespace Entry

def statements : Entry → List PendingStatement
  | .statement pending => [pending]
  | .occasion _ _ _ _ => []

def callbacks : Entry → List Callback
  | .statement _ => []
  | .occasion entity schema event _ => deferredOn entity schema event

def join (context : FlushContext) : Entry → FlushContext
  | .statement pending => context.push pending
  | .occasion entity schema event _ => context.queue entity schema event

end Entry

def gather (context : FlushContext) (entries : List Entry) : FlushContext :=
  entries.foldl Entry.join context

theorem adds_gather (context : FlushContext) (entries : List Entry) :
    context.Adds (context.gather entries) (entries.flatMap Entry.statements)
      (entries.flatMap Entry.callbacks) := by
  unfold gather
  induction entries generalizing context with
  | nil => exact .refl context
  | cons entry rest ih =>
      have joins : context.Adds (entry.join context) entry.statements entry.callbacks := by
        cases entry with
        | statement pending => exact context.adds_push pending
        | occasion entity schema event post => exact context.adds_queue entity schema event
      exact joins.trans (ih (entry.join context))

theorem dispatches_of_isBatch {context : FlushContext} (batched : context.isBatch = true)
    (tracing : Bool) :
    context.dispatches tracing = context.enveloped context.batchType context.statements tracing ++
      context.enveloped .counter context.counterStatements tracing := by
  unfold isBatch at batched
  unfold dispatches
  cases mode : context.mode with
  | immediate => simp [mode] at batched
  | batch => rfl
  | orderedBatch => rfl

theorem run_of_stopped {context : FlushContext} {world : World}
    (stopped : (context.execute world).1 ≠ .ok .applied) :
    context.run world = context.execute world := by
  unfold run
  cases executed : context.execute world with
  | mk outcome settled =>
      rw [executed] at stopped
      rcases outcome with error | _ | rejection
      · rfl
      · exact absurd rfl stopped
      · rfl

theorem run_of_applied {context : FlushContext} {world : World}
    (applied : (context.execute world).1 = .ok .applied)
    (unlocked : ∀ callback ∈ context.callbacks, world.Unlocked callback.entity) :
    context.run world =
      (.ok .applied, context.callbacks.foldl Callback.fire (context.execute world).2) := by
  obtain ⟨exchanges, carried, settled⟩ := context.execute_settles world
  unfold run
  cases executed : context.execute world with
  | mk outcome middle =>
      rw [executed] at applied settled
      subst applied
      have still : ∀ callback ∈ context.callbacks, middle.Unlocked callback.entity := by
        intro callback member
        obtain ⟨record, locked⟩ := unlocked callback member
        exact ⟨record, (settled.lock callback.entity).trans locked⟩
      dsimp only
      rw [Callback.runAll_ok still]

theorem run_applied {context : FlushContext} {world : World} {exchanges : List Exchange}
    (settles : world.Settles exchanges (context.execute world).2)
    (applied : (context.execute world).1 = .ok .applied)
    (unlocked : ∀ callback ∈ context.callbacks, world.Unlocked callback.entity) :
    (context.run world).1 = .ok .applied ∧
      (context.run world).2 = context.callbacks.foldl Callback.fire (context.execute world).2 ∧
        (context.run world).2.interceptions = world.interceptions ++
          context.callbacks.flatMap fun callback =>
            callback.calls (world.entityName callback.entity) := by
  have ran := run_of_applied applied unlocked
  refine ⟨congrArg Prod.fst ran, congrArg Prod.snd ran, ?_⟩
  have names (entity : EntityRef) :
      (context.execute world).2.entityName entity = world.entityName entity :=
    congrArg (·.map (·.entity)) (settles.lock entity)
  calc (context.run world).2.interceptions
      = (context.callbacks.foldl Callback.fire (context.execute world).2).interceptions := by
        rw [ran]
    _ = (context.execute world).2.interceptions ++ context.callbacks.flatMap fun callback =>
          callback.calls ((context.execute world).2.entityName callback.entity) :=
        Callback.interceptions_fold context.callbacks _
    _ = _ := by simp only [settles.interceptions, names]

/-- What callbacks leave alone is the same after a run as after its execution. -/
theorem view_run {α : Type} {view : World → α}
    (kept : ∀ (callback : Callback) (world : World), view (callback.run world).2 = view world)
    (context : FlushContext) (world : World) :
    view (context.run world).2 = view (context.execute world).2 := by
  unfold run
  rcases context.execute world with ⟨outcome, settled⟩
  rcases outcome with error | _ | rejection
  · rfl
  · have called := Callback.view_runAll kept context.callbacks settled
    dsimp only
    rcases ran : Callback.runAll context.callbacks settled with ⟨result, after⟩
    rw [ran] at called
    cases result <;> exact called
  · rfl

theorem executed_run (context : FlushContext) (world : World) :
    (context.run world).2.executed = (context.execute world).2.executed :=
  congrArg (·.store.executed) (context.view_run Callback.backend_run world)

theorem heard_run (context : FlushContext) (world : World) :
    (context.run world).2.heard = (context.execute world).2.heard :=
  context.view_run Callback.heard_run world

/-- A run that comes to its end has sent everything and called all callbacks back. -/
theorem run_eq_applied {context : FlushContext} {world final : World}
    (ran : context.run world = (.ok .applied, final)) :
    ∃ exchanges settled,
      Carried (context.dispatches world.tracing) world.answers exchanges (.ok .applied) ∧
        world.Settles exchanges settled ∧ final.executed = settled.executed ∧
          final = context.callbacks.foldl Callback.fire settled := by
  obtain ⟨exchanges, carried, settles⟩ := context.execute_settles world
  have executed := context.executed_run world
  rw [ran] at executed
  unfold run at ran
  split at ran
  · rename_i settled carriedOut
    rw [carriedOut] at carried settles executed
    split at ran
    · rename_i after called
      cases ran
      exact ⟨exchanges, settled, carried, settles, executed, Callback.runAll_eq_ok called⟩
    · cases ran
  · rename_i stopped
    exact absurd ran (stopped final)

structure Sends (context : FlushContext) (world : World) (exchanges : List Exchange) : Prop where
  carried : ∃ outcome, Carried (context.dispatches world.tracing) world.answers exchanges outcome
  executed : (context.run world).2.executed =
    world.executed ++ exchanges.map (·.dispatch.submission)

theorem exists_sends (context : FlushContext) (world : World) :
    ∃ exchanges, context.Sends world exchanges := by
  obtain ⟨exchanges, carried, settles⟩ := context.execute_settles world
  exact ⟨exchanges, ⟨_, carried⟩, (context.executed_run world).trans settles.executed⟩

def account : EntitySchema :=
  ⟨"Account", "accounts", [], none, none, none, none,
    [⟨"audit", [.postUpdate], fun _ => [("checked", .boolean true)]⟩]⟩

def guardedDebit : PendingStatement :=
  ⟨"UPDATE accounts SET balance = ? WHERE id = ? IF balance = ?", [.int 5, .int 1, .int 7], false,
    none, .quorum, none, none⟩

def debitCount : PendingStatement :=
  ⟨"UPDATE accounts_counters SET debits = debits + ? WHERE id = ?", [.counter 1, .int 1], true,
    none, .quorum, none, none⟩

end FlushContext

end CqlMapper
