import CqlMapper.Proofs.Session.Flushing
import CqlMapper.Proofs.Session.Preparing

/-!
The flush of a context that is not a batch: its statements go to the store one by one, and the first
that is not applied is the last that is sent.
-/

namespace CqlMapper

namespace FlushContext

structure FlushesSingly (context : FlushContext) (statements : List PendingStatement)
    (callbacks : List Callback) (world : World) (exchanges : List Exchange)
    (outcome result : Except WriteError Outcome) (after : FlushContext) (final : World) :
    Prop where
  carried : Carried (statements.map (alone world.tracing)) world.answers exchanges outcome
  executed : final.executed = world.executed ++ exchanges.map (·.dispatch.submission)
  heard : ∃ told, List.Forall₂ Exchange.Tells exchanges told ∧
    final.heard = world.heard ++ told.flatten
  applied_iff : outcome = .ok .applied ↔
    exchanges.map (·.dispatch) = statements.map (alone world.tracing) ∧
      ∀ exchange ∈ exchanges,
        Verdict exchange.dispatch.submission.statements exchange.answer (.ok .applied)
  ended : ∃ settled, world.Settles exchanges settled ∧
    (outcome ≠ .ok .applied → result = outcome ∧ final = settled) ∧
    (outcome = .ok .applied → (∀ callback ∈ callbacks, world.Unlocked callback.entity) →
      result = .ok .applied ∧ final = callbacks.foldl Callback.fire settled ∧
        final.interceptions = world.interceptions ++
          callbacks.flatMap fun callback => callback.calls (world.entityName callback.entity))
  session : context.SameSession after
  statements : after.statements = []
  counterStatements : after.counterStatements = []
  callbacks : after.callbacks = []

theorem execute_of_immediate {context : FlushContext} (immediate : context.mode = .immediate)
    (world : World) :
    context.execute world =
      executeEach (context.statements ++ context.counterStatements) world := by
  unfold execute
  rw [immediate]

/-- A flush sends the statements gathered outside a batch one by one, counters last, up to the first
that is not applied. Listeners of conditional statements hear of each outcome there is, and the
callbacks run once each if all was applied. -/
theorem flush_singly (context : FlushContext) (immediate : context.mode = .immediate)
    (entries : List Entry) (world : World) :
    ∃ exchanges outcome, context.FlushesSingly
      ((context.statements ++
          (entries.flatMap Entry.statements).filter fun pending => !pending.counter) ++
        (context.counterStatements ++
          (entries.flatMap Entry.statements).filter fun pending => pending.counter))
      (context.callbacks ++ entries.flatMap Entry.callbacks) world exchanges outcome
      ((context.gather entries).flush world).1 ((context.gather entries).flush world).2.1
      ((context.gather entries).flush world).2.2 := by
  have adds := context.adds_gather entries
  generalize context.gather entries = pending at adds ⊢
  rw [← adds.plain, ← adds.counters, ← adds.deferred]
  have stillImmediate : pending.mode = .immediate := adds.mode.trans immediate
  obtain ⟨exchanges, carried, settles, told, tells, heard⟩ :=
    executeEach_settles (pending.statements ++ pending.counterStatements) world
  rw [← execute_of_immediate stillImmediate] at carried settles heard
  have sent := (pending.executed_run world).trans settles.executed
  have notified := (pending.heard_run world).trans heard
  have stopped (stops : (pending.execute world).1 ≠ .ok .applied) :
      (pending.run world).1 = (pending.execute world).1 ∧
        (pending.run world).2 = (pending.execute world).2 := by
    have ran := run_of_stopped stops
    exact ⟨congrArg Prod.fst ran, congrArg Prod.snd ran⟩
  exact ⟨exchanges, (pending.execute world).1, carried, sent, ⟨told, tells, notified⟩,
    carried.applied_iff, ⟨_, settles, stopped, run_applied settles⟩,
    adds.toSameSession.trans ⟨rfl, rfl, rfl, rfl⟩, rfl, rfl, rfl⟩

def opening : PendingStatement :=
  ⟨"INSERT INTO accounts (id, balance) VALUES (?, ?) IF NOT EXISTS", [.int 1, .int 7], false, none,
    .quorum, some .serial, some ⟨"opening", true⟩⟩

def heardDebit : PendingStatement :=
  { guardedDebit with level := .one, listener := some ⟨"debit", false⟩ }

def history : PendingStatement :=
  ⟨"UPDATE histories SET last = ? WHERE id = ?", [.int 5, .int 1], false, none, .one, none, none⟩

def banking : List Entry :=
  [.statement debitCount, .statement opening, .statement heardDebit, .statement history,
    .occasion 0 account .postUpdate WriteKind.update.isPost_postEvent]

def reluctant : World where
  cells := [⟨Record.new "Account", false⟩]
  backend := ⟨⟨[], [.ok (.single (Row.applied true)), .ok (.single
    ((Row.applied false).withColumn "balance" .int (.int 6)))]⟩, none⟩
  wall := ⟨fun _ => 0, 0⟩
  tracing := false
  notices := []

theorem flush_singly_reluctant :
    FlushContext.immediate.mode = .immediate ∧
      (∃ exchanges outcome, FlushContext.immediate.FlushesSingly
        [opening, heardDebit, history, debitCount] [⟨0, account, .postUpdate⟩] reluctant
        exchanges outcome (.ok (.rejected ⟨.update, [("balance", .int 6)]⟩))
        FlushContext.immediate ((FlushContext.immediate.gather banking).flush reluctant).2.2) ∧
      ((FlushContext.immediate.gather banking).flush reluctant).2.2.heard =
        [(⟨"opening", true⟩, .applied),
          (⟨"debit", false⟩, .rejected ⟨.update, [("balance", .int 6)]⟩)] := by
  have turned := flush_singly FlushContext.immediate rfl banking reluctant
  exact ⟨rfl, turned, rfl⟩

end FlushContext

end CqlMapper
