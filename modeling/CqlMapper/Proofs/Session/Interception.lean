import CqlMapper.Proofs.Session.Advancing

/-!
An immediate write with its interceptors. The statements are made of what the pre interceptors
leave, the post interceptors follow an applied write only, and whatever either of them sets, the
entity has nothing left to write once its statements exist and were not refused.
-/

namespace CqlMapper

inductive Intercepts (event : Event) :
    List Interceptor → Record → List Interceptor → Record → Prop
  | done (record : Record) : Intercepts event [] record [] record
  | deaf {first : Interceptor} {rest called : List Interceptor} {record final : Record}
      (deaf : event ∉ first.events) (later : Intercepts event rest record called final) :
      Intercepts event (first :: rest) record called final
  | called {first : Interceptor} {rest called : List Interceptor} {record final : Record}
      (listens : event ∈ first.events)
      (later : Intercepts event rest (record.setAll (first.react record.values)) called final) :
      Intercepts event (first :: rest) record (first :: called) final

theorem EntitySchema.intercepts (schema : EntitySchema) (event : Event) (record : Record) :
    Intercepts event schema.interceptors record (schema.interceptorsFor event)
      (schema.intercept event record) := by
  unfold intercept interceptorsFor
  induction schema.interceptors generalizing record with
  | nil => exact .done record
  | cons first rest ih =>
      by_cases listens : event ∈ first.events
      · rw [List.filter_cons_of_pos (by simpa using listens), List.foldl_cons]
        exact .called listens (ih _)
      · rw [List.filter_cons_of_neg (by simpa using listens)]
        exact .deaf listens (ih record)

theorem WriteKind.isPost_preEvent (kind : WriteKind) : kind.preEvent.isPost = false := by
  cases kind <;> rfl

theorem Callback.leaves_pre {callback : Callback} (pre : callback.event.isPost = false)
    (record : Record) :
    callback.leaves record = callback.schema.intercept callback.event record := by
  simp [leaves, pre]

theorem Callback.leaves_post {callback : Callback} (post : callback.event.isPost = true)
    (record : Record) :
    callback.leaves record = (callback.schema.intercept callback.event record).markClean := by
  simp [leaves, post]

def callsOf (event : Event) (entity : String) (called : List Interceptor) :
    List (String × String × Event) :=
  called.map fun interceptor => (interceptor.label, entity, event)

namespace World

structure Touches (world : World) (entity : EntityRef) (left : Record)
    (calls : List (String × String × Event)) (final : World) : Prop where
  left : final.lock entity = .ok left
  others : ∀ other, other ≠ entity → final.lock other = world.lock other
  interceptions : final.interceptions = world.interceptions ++ calls

variable {world middle final : World} {entity : EntityRef} {record left : Record}
  {calls further : List (String × String × Event)}

theorem Touches.trans (first : world.Touches entity left calls middle)
    (second : middle.Touches entity record further final) :
    world.Touches entity record (calls ++ further) final := by
  refine ⟨second.left, fun other apart => ?_, ?_⟩
  · exact (second.others other apart).trans (first.others other apart)
  · rw [second.interceptions, first.interceptions, List.append_assoc]

theorem touches_putRecord (locked : world.lock entity = .ok record) (left : Record) :
    world.Touches entity left [] (world.putRecord entity left) := by
  refine ⟨lock_putRecord locked left, fun other apart => ?_, (List.append_nil _).symm⟩
  simp [lock, cell?, putRecord, apart.symm]

theorem Settles.touches {exchanges : List Exchange} (settles : world.Settles exchanges final)
    (locked : world.lock entity = .ok record) : world.Touches entity record [] final := by
  refine ⟨(settles.lock entity).trans locked, fun other _ => settles.lock other, ?_⟩
  rw [settles.interceptions, List.append_nil]

/-- What the callback of an event makes of an entity that has been cleaned if the event is over. -/
theorem touches_fire {event : Event} (locked : world.lock entity = .ok record)
    (clean : event.isPost = true → record.markClean = record) (schema : EntitySchema) :
    world.Touches entity (Callback.leaves ⟨entity, schema, event⟩ record)
      (callsOf event record.entity (schema.interceptorsFor event))
      ((FlushContext.deferredOn entity schema event).foldl Callback.fire world) := by
  unfold FlushContext.deferredOn
  cases intercepts : schema.interceptsOn event with
  | true =>
      have named : world.entityName entity = .ok record.entity := by
        rw [entityName, locked]
        rfl
      refine ⟨lock_fire ⟨entity, schema, event⟩ locked, fun other apart => ?_, ?_⟩
      · exact lock_fire_of_ne apart.symm
      · simp only [if_true, List.foldl_cons, List.foldl_nil, interceptions_fire, named]
        rfl
  | false =>
      have silent : schema.interceptorsFor event = [] := by
        simpa [EntitySchema.interceptorsFor, EntitySchema.interceptsOn] using intercepts
      have unchanged : Callback.leaves ⟨entity, schema, event⟩ record = record := by
        unfold Callback.leaves
        rw [EntitySchema.intercept_of_not intercepts]
        split
        · exact clean ‹_›
        · rfl
      rw [unchanged, silent]
      exact ⟨locked, fun _ _ => rfl, (List.append_nil _).symm⟩

theorem sameStore_fold (callbacks : List Callback) (world : World) :
    world.SameStore (callbacks.foldl Callback.fire world) := by
  induction callbacks generalizing world with
  | nil => exact .refl world
  | cons callback rest ih => exact (world.sameStore_fire callback).trans (ih _)

theorem SameStore.answers (store : world.SameStore final) : final.answers = world.answers := by
  unfold World.answers
  rw [store.backend]

end World

namespace FlushContext

variable {world : World} {entity : EntityRef} {record : Record}

theorem trigger_fires {event : Event} (pre : event.isPost = false)
    (locked : world.lock entity = .ok record) (schema : EntitySchema) (context : FlushContext) :
    context.trigger entity schema event world =
      (.ok (), context, (deferredOn entity schema event).foldl Callback.fire world) := by
  unfold trigger deferredOn
  rw [pre]
  cases intercepts : schema.interceptsOn event with
  | false => rfl
  | true =>
      have ran := Callback.run_ok ⟨entity, schema, event⟩ ⟨record, locked⟩
      simp [ran]

/-- A run whose only callback is for one clean entity changes that entity alone, and only when all
was applied. -/
theorem run_touches {context : FlushContext} {schema : EntitySchema} {event : Event}
    (called : context.callbacks = deferredOn entity schema event)
    (locked : world.lock entity = .ok record) (clean : record.markClean = record) :
    ∃ exchanges, Carried (context.dispatches world.tracing) world.answers exchanges
        (context.run world).1 ∧
      (context.run world).2.executed = world.executed ++ exchanges.map (·.dispatch.submission) ∧
      ((context.run world).1 ≠ .ok .applied →
        world.Touches entity record [] (context.run world).2) ∧
      ((context.run world).1 = .ok .applied →
        world.Touches entity (Callback.leaves ⟨entity, schema, event⟩ record)
          (callsOf event record.entity (schema.interceptorsFor event)) (context.run world).2) := by
  obtain ⟨exchanges, carried, settles⟩ := context.execute_settles world
  have executed := (context.executed_run world).trans settles.executed
  have unlocked : ∀ callback ∈ context.callbacks, world.Unlocked callback.entity := by
    rw [called, deferredOn]
    split
    · exact List.forall_mem_singleton.mpr ⟨record, locked⟩
    · exact List.forall_mem_nil _
  by_cases applied : (context.execute world).1 = .ok .applied
  · have ran := run_of_applied applied unlocked
    rw [ran] at executed ⊢
    rw [applied] at carried
    refine ⟨exchanges, carried, executed, fun stops => absurd rfl stops, fun _ => ?_⟩
    have settled := settles.touches locked
    rw [called]
    exact settled.trans (World.touches_fire settled.left (fun _ => clean) schema)
  · have ran := run_of_stopped applied
    rw [ran] at executed ⊢
    exact ⟨exchanges, carried, executed, fun _ => settles.touches locked,
      fun finished => absurd finished applied⟩

end FlushContext

def dispatchesOf (queued : List PendingStatement) (tracing : Bool) : List Dispatch :=
  ((queued.filter fun pending => !pending.counter) ++
    queued.filter fun pending => pending.counter).map (FlushContext.alone tracing)

namespace EntityManager

inductive Writes (manager : EntityManager) (kind : WriteKind) (entity : EntityRef)
    (options : WriteOptions) (world : World) : Except WriteError Outcome → World → Prop
  | refused {error : WriteError}
      (checked : manager.checkedSchema kind entity options world = .error error) :
      Writes manager kind entity options world (.error error) world
  | ungenerated {record seen : Record} {schema : EntitySchema} {before : List Interceptor}
      {error : WriteError} {final : World}
      (admits : manager.Admits kind entity options world record schema)
      (pre : Intercepts kind.preEvent schema.interceptors record before seen)
      (fails : manager.statementsFor schema kind options seen = .error error)
      (touches : world.Touches entity seen (callsOf kind.preEvent record.entity before) final)
      (unsent : final.executed = world.executed) :
      Writes manager kind entity options world (.error error) final
  | stopped {record seen left : Record} {schema : EntitySchema} {before : List Interceptor}
      {statements : List GeneratedStatement} {queued : List PendingStatement}
      {exchanges : List Exchange} {outcome : Except WriteError Outcome} {final : World}
      (admits : manager.Admits kind entity options world record schema)
      (pre : Intercepts kind.preEvent schema.interceptors record before seen)
      (generated : manager.statementsFor schema kind options seen = .ok statements)
      (pends : List.Forall₂ (manager.Pends schema options false) statements queued)
      (carried : Carried (dispatchesOf queued world.tracing) world.answers exchanges outcome)
      (stops : outcome ≠ .ok .applied)
      (executed : final.executed = world.executed ++ exchanges.map (·.dispatch.submission))
      (touches : world.Touches entity left (callsOf kind.preEvent record.entity before) final)
      (values : left.values = seen.values) (clean : left.dirtyChanges = []) :
      Writes manager kind entity options world outcome final
  | applied {record seen told left : Record} {schema : EntitySchema}
      {before after : List Interceptor} {statements : List GeneratedStatement}
      {queued : List PendingStatement} {exchanges : List Exchange} {final : World}
      (admits : manager.Admits kind entity options world record schema)
      (pre : Intercepts kind.preEvent schema.interceptors record before seen)
      (generated : manager.statementsFor schema kind options seen = .ok statements)
      (pends : List.Forall₂ (manager.Pends schema options false) statements queued)
      (carried : Carried (dispatchesOf queued world.tracing) world.answers exchanges
        (.ok .applied))
      (executed : final.executed = world.executed ++ exchanges.map (·.dispatch.submission))
      (post : Intercepts kind.postEvent schema.interceptors seen.markClean after told)
      (touches : world.Touches entity left (callsOf kind.preEvent record.entity before ++
        callsOf kind.postEvent record.entity after) final)
      (values : left.values = told.values) (clean : left.dirtyChanges = []) :
      Writes manager kind entity options world (.ok .applied) final

variable {manager : EntityManager} {kind : WriteKind} {entity : EntityRef} {options : WriteOptions}
  {world : World} {schema : EntitySchema} {record : Record}

theorem gathered (manager : EntityManager) (schema : EntitySchema) (options : WriteOptions)
    (statements : List GeneratedStatement) (entity : EntityRef) (event : Event) (tracing : Bool) :
    let context := (manager.enqueue schema options statements .immediate).queue entity schema event
    context.dispatches tracing =
        dispatchesOf (statements.map (manager.pendingOf schema options false)) tracing ∧
      context.callbacks = FlushContext.deferredOn entity schema event := by
  intro context
  have adds : FlushContext.immediate.Adds context
      (statements.map (manager.pendingOf schema options false))
      (FlushContext.deferredOn entity schema event) := by
    have both := (FlushContext.immediate.adds_pushAll
      (statements.map (manager.pendingOf schema options false))).trans
        (FlushContext.adds_queue _ entity schema event)
    rwa [List.append_nil] at both
  have immediate : context.mode = .immediate := adds.mode
  refine ⟨?_, adds.deferred⟩
  rw [FlushContext.dispatches, immediate, adds.plain, adds.counters]
  rfl

/-- An admitted write is a run of what its pre interceptors let it generate. -/
theorem write_admitted {before : World} {seen : Record}
    (admits : manager.Admits kind entity options world record schema)
    (fired : (FlushContext.deferredOn entity schema kind.preEvent).foldl Callback.fire world =
      before) (locked : before.lock entity = .ok seen) :
    manager.write kind entity options world =
      match manager.statementsFor schema kind options seen with
      | .error error => (.error error, before)
      | .ok statements =>
        ((manager.enqueue schema options statements .immediate).queue entity schema
          kind.postEvent).run (before.putRecord entity seen.markClean) := by
  have unordered : FlushContext.immediate.mode ≠ .orderedBatch := nofun
  simp only [write, prepare, admits.checked, stamp_unordered unordered,
    FlushContext.trigger_fires kind.isPost_preEvent admits.locked, fired, generate_locked locked]
  cases manager.statementsFor schema kind options seen with
  | error error => rfl
  | ok statements => simp only [Except.map, trigger_post kind.isPost_postEvent]

/-- A write whose statements exist turns out as the run of them does. -/
theorem writes_run {called : List Interceptor} {seen : Record} {middle : World}
    {statements : List GeneratedStatement}
    (admits : manager.Admits kind entity options world record schema)
    (pre : Intercepts kind.preEvent schema.interceptors record called seen)
    (named : seen.entity = record.entity)
    (generated : manager.statementsFor schema kind options seen = .ok statements)
    (touched : world.Touches entity seen (callsOf kind.preEvent record.entity called) middle)
    (store : world.SameStore middle) :
    let ran := ((manager.enqueue schema options statements .immediate).queue entity schema
      kind.postEvent).run (middle.putRecord entity seen.markClean)
    Writes manager kind entity options world ran.1 ran.2 := by
  intro ran
  have cleaned := touched.trans (World.touches_putRecord touched.left seen.markClean)
  have kept : world.SameStore (middle.putRecord entity seen.markClean) :=
    ⟨store.backend, store.tracing⟩
  obtain ⟨dispatches, callbacks⟩ :=
    manager.gathered schema options statements entity kind.postEvent world.tracing
  obtain ⟨exchanges, carried, executed, stopped, applied⟩ :=
    FlushContext.run_touches callbacks cleaned.left rfl
  rw [kept.tracing, kept.answers, dispatches] at carried
  rw [kept.executed] at executed
  rw [List.append_nil] at cleaned
  by_cases finished : ran.1 = .ok .applied
  · have post := schema.intercepts kind.postEvent seen.markClean
    have touches := cleaned.trans (applied finished)
    have still : seen.markClean.entity = record.entity := named
    rw [Callback.leaves_post kind.isPost_postEvent, still] at touches
    rw [finished]
    exact .applied admits pre generated (forall₂_pends_iff.mpr rfl) (finished ▸ carried) executed
      post touches rfl rfl
  · have touches := cleaned.trans (stopped finished)
    rw [List.append_nil] at touches
    exact .stopped admits pre generated (forall₂_pends_iff.mpr rfl) carried finished executed
      touches rfl rfl

/-- However a write turns out, the pre interceptors have run once each before its statements were
made; the post interceptors run once each if it was applied and not at all otherwise. -/
theorem write_writes (manager : EntityManager) (kind : WriteKind) (entity : EntityRef)
    (options : WriteOptions) (world : World) :
    Writes manager kind entity options world (manager.write kind entity options world).1
      (manager.write kind entity options world).2 := by
  cases checked : manager.checkedSchema kind entity options world with
  | error error =>
      simp only [write, prepare, checked]
      exact .refused checked
  | ok schema =>
      obtain ⟨record, admits⟩ := checkedSchema_ok checked
      have pre := schema.intercepts kind.preEvent record
      have named := schema.entity_intercept kind.preEvent record
      have uncleaned : kind.preEvent.isPost = true → record.markClean = record := by
        simp [kind.isPost_preEvent]
      have touched := World.touches_fire admits.locked uncleaned schema
      rw [Callback.leaves_pre kind.isPost_preEvent] at touched
      have store := World.sameStore_fold
        (FlushContext.deferredOn entity schema kind.preEvent) world
      rw [write_admitted admits rfl touched.left]
      cases generated : manager.statementsFor schema kind options
          (schema.intercept kind.preEvent record) with
      | error error => exact .ungenerated admits pre generated touched store.executed
      | ok statements => exact writes_run admits pre named generated touched store

end EntityManager

end CqlMapper
