import CqlMapper.Session.Flush

/-!
How a flush context fills up: statements join one of two queues, callbacks a third, and the settings
of the session stay.
-/

namespace CqlMapper

namespace FlushContext

/-- Two contexts of one session: only what is pending and the clock may differ. -/
structure SameSession (before after : FlushContext) : Prop where
  mode : after.mode = before.mode
  batchType : after.batchType = before.batchType
  level : after.level = before.level
  serialLevel : after.serialLevel = before.serialLevel

structure Adds (before after : FlushContext) (statements : List PendingStatement)
    (callbacks : List Callback) : Prop extends SameSession before after where
  plain : after.statements = before.statements ++ statements.filter fun added => !added.counter
  counters : after.counterStatements =
    before.counterStatements ++ statements.filter fun added => added.counter
  deferred : after.callbacks = before.callbacks ++ callbacks

variable {before middle after : FlushContext} {statements others : List PendingStatement}
  {callbacks further : List Callback}

theorem SameSession.refl (context : FlushContext) : context.SameSession context :=
  ⟨rfl, rfl, rfl, rfl⟩

theorem SameSession.trans (first : before.SameSession middle) (second : middle.SameSession after) :
    before.SameSession after :=
  ⟨second.mode.trans first.mode, second.batchType.trans first.batchType,
    second.level.trans first.level, second.serialLevel.trans first.serialLevel⟩

theorem Adds.refl (context : FlushContext) : context.Adds context [] [] :=
  ⟨.refl context, (List.append_nil _).symm, (List.append_nil _).symm, (List.append_nil _).symm⟩

theorem Adds.trans (first : before.Adds middle statements callbacks)
    (second : middle.Adds after others further) :
    before.Adds after (statements ++ others) (callbacks ++ further) := by
  refine ⟨first.toSameSession.trans second.toSameSession, ?_, ?_, ?_⟩
  · rw [second.plain, first.plain, List.filter_append, List.append_assoc]
  · rw [second.counters, first.counters, List.filter_append, List.append_assoc]
  · rw [second.deferred, first.deferred, List.append_assoc]

theorem adds_push (context : FlushContext) (pending : PendingStatement) :
    context.Adds (context.push pending) [pending] [] := by
  unfold push
  cases counter : pending.counter with
  | false => exact ⟨⟨rfl, rfl, rfl, rfl⟩, by simp [counter], by simp [counter], by simp⟩
  | true => exact ⟨⟨rfl, rfl, rfl, rfl⟩, by simp [counter], by simp [counter], by simp⟩

theorem adds_pushAll (context : FlushContext) (pending : List PendingStatement) :
    context.Adds (context.pushAll pending) pending [] := by
  unfold pushAll
  induction pending generalizing context with
  | nil => exact .refl context
  | cons first rest ih => exact (context.adds_push first).trans (ih (context.push first))

theorem clock_push (context : FlushContext) (pending : PendingStatement) :
    (context.push pending).clock = context.clock := by
  unfold push
  split <;> rfl

theorem clock_pushAll (context : FlushContext) (pending : List PendingStatement) :
    (context.pushAll pending).clock = context.clock := by
  unfold pushAll
  induction pending generalizing context with
  | nil => rfl
  | cons first rest ih => exact (ih (context.push first)).trans (context.clock_push first)

def deferredOn (entity : EntityRef) (schema : EntitySchema) (event : Event) : List Callback :=
  if schema.interceptsOn event then [⟨entity, schema, event⟩] else []

theorem isPost_deferredOn (entity : EntityRef) {schema : EntitySchema} {event : Event}
    (post : event.isPost = true) :
    ∀ callback ∈ deferredOn entity schema event, callback.event.isPost = true := by
  unfold deferredOn
  split
  · exact List.forall_mem_singleton.mpr post
  · exact fun _ member => absurd member List.not_mem_nil

theorem adds_queue (context : FlushContext) (entity : EntityRef) (schema : EntitySchema)
    (event : Event) :
    context.Adds (context.queue entity schema event) [] (deferredOn entity schema event) := by
  unfold queue deferredOn
  split
  · exact ⟨⟨rfl, rfl, rfl, rfl⟩, by simp, by simp, rfl⟩
  · exact .refl context

theorem clock_queue (context : FlushContext) (entity : EntityRef) (schema : EntitySchema)
    (event : Event) : (context.queue entity schema event).clock = context.clock := by
  unfold queue
  split <;> rfl

theorem trigger_idle {schema : EntitySchema} (idle : schema.interceptors = [])
    (context : FlushContext) (entity : EntityRef) (event : Event) (world : World) :
    context.trigger entity schema event world = (.ok (), context, world) := by
  have silent : schema.interceptsOn event = false := by simp [EntitySchema.interceptsOn, idle]
  unfold trigger queue
  rw [silent]
  cases event.isPost <;> rfl

end FlushContext

end CqlMapper
