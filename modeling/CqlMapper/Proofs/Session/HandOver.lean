import CqlMapper.Proofs.Session.Moves

/-!
What becomes of the work that a batch hands over. However its parts and further calls on the batch
follow one another, every handover ends up in the store as it was when it was made, and is called
back once.
-/

namespace CqlMapper

section Undisturbed

variable {world : World} {schema : EntitySchema} {context : FlushContext}

theorem World.gains_update {change : Record → Record}
    (same : ∀ record, (change record).entity = record.entity) (world : World)
    (entity : EntityRef) : world.Gains [] [] (world.update entity change) := by
  have store := world.sameStore_update entity change
  refine ⟨?_, ?_, store.accepting, store.tracing, World.entityName_update same world entity⟩
  · rw [store.executed, List.append_nil]
  · have kept : (world.update entity change).notices = world.notices := by
      unfold World.update
      split <;> rfl
    rw [World.called, World.interceptions, kept, List.append_nil]
    rfl

theorem EntityManager.Stamps.gains {options : WriteOptions} {stamped : FlushContext}
    {ticked : World} {result : Except WriteError WriteOptions}
    (stamps : Stamps schema options context world result stamped ticked) :
    world.Gains [] [] ticked := by
  cases stamps with
  | free => exact .refl world
  | ticked | timeless =>
      exact ⟨(List.append_nil _).symm, (List.append_nil _).symm, id, rfl, fun _ => rfl⟩

theorem FlushContext.trigger_gains (context : FlushContext) (entity : EntityRef)
    (schema : EntitySchema) (event : Event) (world : World) :
    world.Gains [] [] (context.trigger entity schema event world).2.2 := by
  unfold trigger
  split
  · exact .refl world
  · rename_i pre
    split
    · have gains := world.gains_fire ⟨entity, schema, event⟩
      rwa [if_neg pre] at gains
    · exact .refl world

theorem EntityManager.generate_gains {manager : EntityManager} {kind : WriteKind}
    {options : WriteOptions} {entity : EntityRef} {statements : List GeneratedStatement}
    {left : World}
    (generated : manager.generate schema kind options entity world = .ok (statements, left)) :
    world.Gains [] [] left := by
  obtain ⟨record, locked, rest⟩ := Outcome.bind_eq_ok.mp generated
  obtain ⟨made, _, whole⟩ := Outcome.bind_eq_ok.mp rest
  cases whole
  have cleaned : world.update entity Record.markClean =
      world.putRecord entity record.markClean := by
    rw [World.update, locked]
  have same (record : Record) : record.markClean.entity = record.entity := rfl
  rw [← cleaned]
  exact world.gains_update same entity

theorem EntityManager.prepare_gains (manager : EntityManager) (kind : WriteKind)
    (entity : EntityRef) (options : WriteOptions) (context : FlushContext) (world : World) :
    world.Gains [] [] (manager.prepare kind entity options context world).2.2 := by
  unfold prepare
  cases checked : manager.checkedSchema kind entity options world with
  | error error => exact .refl world
  | ok schema =>
      have stamps := (stamp_stamps schema options context world).gains
      dsimp only
      generalize stamp schema options context world = done at stamps ⊢
      rcases done with ⟨error | asked, stamped, ticked⟩
      · exact stamps
      · have seen := stamps.trans (stamped.trigger_gains entity schema kind.preEvent ticked)
        dsimp only
        generalize stamped.trigger entity schema kind.preEvent ticked = done at seen ⊢
        rcases done with ⟨error | _, queue, after⟩
        · exact seen
        · dsimp only
          cases generated : manager.generate schema kind asked entity after with
          | error error => exact seen
          | ok made =>
              have cleaned := seen.trans (generate_gains generated)
              exact cleaned.trans (FlushContext.trigger_gains _ entity schema kind.postEvent made.2)

theorem EntityManager.prepareRemoveById_gains (manager : EntityManager) (entity : String)
    (key : List FieldValue) (options : WriteOptions) (context : FlushContext) (world : World) :
    world.Gains [] [] (manager.prepareRemoveById entity key options context world).2.2 := by
  unfold prepareRemoveById
  extract_lets found
  cases found with
  | error error => exact .refl world
  | ok schema =>
      have stamps := (stamp_stamps schema options context world).gains
      dsimp only
      generalize stamp schema options context world = done at stamps ⊢
      rcases done with ⟨error | asked, stamped, ticked⟩
      · exact stamps
      · dsimp only
        cases schema.keyFrom key <;> exact stamps

theorem Batch.perform_gains (batch : Batch) (operation : BatchOperation) (world : World) :
    world.Gains [] [] (batch.perform operation world).2.2 := by
  cases operation with
  | write kind entity options =>
      simp only [perform, guarded]
      split
      · exact .refl world
      · exact batch.manager.prepare_gains kind entity options batch.context world
  | removeById entity key options =>
      simp only [perform, guarded]
      split
      · exact .refl world
      · exact batch.manager.prepareRemoveById_gains entity key options batch.context world
  | native query values =>
      simp only [perform]
      split <;> exact .refl world

end Undisturbed

namespace Tasks

def sent (tasks : Tasks) (world : World) : List Submission :=
  world.executed ++ tasks.waiting.flatMap fun task => task.2.owes world.tracing

def called (tasks : Tasks) (world : World) : List (String × String × Event) :=
  world.called ++ tasks.waiting.flatMap fun task => task.2.awaits world

structure Yields (tasks : Tasks) (world : World) (sent : List Submission)
    (calls : List (String × String × Event)) (after : Tasks) (final : World) : Prop where
  gains : ∃ done heard, world.Gains done heard final
  executor : after.executor = tasks.executor
  ready : ∀ task ∈ after.waiting, task.2.Ready final
  sent : (after.sent final).Perm (tasks.sent world ++ sent)
  called : (after.called final).Perm (tasks.called world ++ calls)
  finished : ∀ entry ∈ after.finished, entry ∈ tasks.finished ∨ entry.2 = .ok .applied

variable {tasks middle after : Tasks} {world between final : World} {sent others : List Submission}
  {calls further : List (String × String × Event)}

theorem Yields.refl (ready : ∀ task ∈ tasks.waiting, task.2.Ready world) :
    tasks.Yields world [] [] tasks world :=
  ⟨⟨[], [], .refl world⟩, rfl, ready, by simp, by simp, fun _ member => Or.inl member⟩

theorem Yields.trans (first : tasks.Yields world sent calls middle between)
    (second : middle.Yields between others further after final) :
    tasks.Yields world (sent ++ others) (calls ++ further) after final := by
  obtain ⟨done, heard, gains⟩ := first.gains
  obtain ⟨later, last, more⟩ := second.gains
  refine ⟨⟨_, _, gains.trans more⟩, second.executor.trans first.executor, second.ready, ?_, ?_, ?_⟩
  · rw [← List.append_assoc]
    exact second.sent.trans (first.sent.append_right others)
  · rw [← List.append_assoc]
    exact second.called.trans (first.called.append_right further)
  · intro entry member
    rcases second.finished entry member with earlier | applied
    · exact first.finished entry earlier
    · exact Or.inr applied

/-- Whatever is done at once comes before what the waiting tasks will do. -/
theorem yields_of_gains (ready : ∀ task ∈ tasks.waiting, task.2.Ready world)
    (gains : world.Gains sent calls final) : tasks.Yields world sent calls tasks final := by
  refine ⟨⟨sent, calls, gains⟩, rfl, ?_, ?_, ?_, fun _ member => Or.inl member⟩
  · intro task member
    exact (ready task member).gains gains
  · rw [Tasks.sent, Tasks.sent, gains.executed, gains.tracing, List.append_assoc, List.append_assoc]
    exact List.perm_append_comm.append_left _
  · simp only [Tasks.called, gains.called, FlushContext.awaits_congr gains, List.append_assoc]
    exact List.perm_append_comm.append_left _

theorem submit_yields {work : FlushContext}
    (ready : ∀ task ∈ tasks.waiting, task.2.Ready world) (live : tasks.executor ≠ .dropping)
    (accepting : world.Accepting) (fit : work.Ready world) :
    tasks.Yields world (work.owes world.tracing) (work.awaits world)
      (tasks.submit work world).2.1 (tasks.submit work world).2.2 := by
  obtain ⟨executor, waiting, finished, next⟩ := tasks
  cases executor with
  | atOnce =>
      obtain ⟨applied, gains⟩ := FlushContext.run_gains fit accepting
      have yields : (⟨.atOnce, waiting, finished, next⟩ : Tasks).Yields world _ _ _ _ :=
        yields_of_gains ready gains
      refine ⟨yields.gains, rfl, yields.ready, yields.sent, yields.called, ?_⟩
      intro entry member
      rcases List.mem_append.mp member with earlier | new
      · exact Or.inl earlier
      · rw [List.mem_singleton.mp new]
        exact Or.inr applied
  | queued =>
      refine ⟨⟨[], [], .refl world⟩, rfl, ?_, ?_, ?_, fun _ member => Or.inl member⟩
      · exact List.forall_mem_append.mpr ⟨ready, List.forall_mem_singleton.mpr fit⟩
      · simp [Tasks.sent, submit]
      · simp [Tasks.called, submit]
  | dropping => exact absurd rfl live

theorem exists_split {α : Type} {items : List α} {index : Nat} {item : α}
    (found : items[index]? = some item) :
    ∃ before after, items = before ++ item :: after ∧
      (∀ other, items.set index other = before ++ other :: after) ∧
      items.eraseIdx index = before ++ after := by
  induction items generalizing index with
  | nil => cases found
  | cons first rest ih =>
      cases index with
      | zero =>
          cases found
          exact ⟨[], rest, rfl, fun _ => rfl, rfl⟩
      | succ index =>
          obtain ⟨before, after, whole, set, erased⟩ := ih found
          refine ⟨first :: before, after, by rw [whole]; rfl, fun other => ?_, ?_⟩
          · rw [List.set_cons_succ, set, List.cons_append]
          · rw [List.eraseIdx_cons_succ, erased, List.cons_append]

theorem perm_moved {α : Type} (done part before rest later : List α) :
    (done ++ part ++ (before ++ (rest ++ later))).Perm
      (done ++ (before ++ (part ++ rest ++ later))) := by
  rw [List.append_assoc, List.append_assoc part rest later]
  exact (List.perm_append_comm_assoc part before _).append_left done

/-- A part that is carried out moves from what is waiting to what is done. -/
theorem advance_yields (ready : ∀ task ∈ tasks.waiting, task.2.Ready world)
    (accepting : world.Accepting) (index : Nat) :
    tasks.Yields world [] [] (tasks.advance index world).1 (tasks.advance index world).2 := by
  unfold advance
  cases found : tasks.waiting[index]? with
  | none => exact .refl ready
  | some task =>
      obtain ⟨ticket, context⟩ := task
      obtain ⟨before, later, whole, set, erased⟩ := exists_split found
      have fit : context.Ready world := ready _ (List.mem_of_getElem? found)
      have advances := FlushContext.advance_advances fit accepting
      rw [whole] at ready
      obtain ⟨readyBefore, readyLater⟩ := List.forall_mem_append.mp ready
      obtain ⟨_, readyAfter⟩ := List.forall_mem_cons.mp readyLater
      dsimp only
      generalize context.advance world = done at advances ⊢
      obtain ⟨progress, final⟩ := done
      dsimp only at advances ⊢
      -- What the part does was owed in the middle, between the tasks before this one and those
      -- after it, and now stands at the end of what has been done.
      cases advances with
      | @part rest sent calls _ gains still owes awaits =>
          dsimp only
          rw [set]
          refine ⟨⟨sent, calls, gains⟩, rfl, ?_, ?_, ?_, fun _ member => Or.inl member⟩
          · refine List.forall_mem_append.mpr ⟨?_, List.forall_mem_cons.mpr ⟨still, ?_⟩⟩
            · exact fun task member => (readyBefore task member).gains gains
            · exact fun task member => (readyAfter task member).gains gains
          · simp only [Tasks.sent, whole, gains.executed, gains.tracing, List.flatMap_append,
              List.flatMap_cons, owes, List.append_nil]
            exact perm_moved _ _ _ _ _
          · simp only [Tasks.called, whole, gains.called, FlushContext.awaits_congr gains,
              List.flatMap_append, List.flatMap_cons, awaits, List.append_nil]
            exact perm_moved _ _ _ _ _
      | finished owes awaits =>
          dsimp only
          rw [erased]
          refine ⟨⟨[], [], .refl _⟩, rfl, ?_, ?_, ?_, ?_⟩
          · exact List.forall_mem_append.mpr ⟨readyBefore, readyAfter⟩
          · simp [Tasks.sent, whole, owes]
          · simp [Tasks.called, whole, awaits]
          · intro entry member
            rcases List.mem_append.mp member with earlier | new
            · exact Or.inl earlier
            · rw [List.mem_singleton.mp new]
              exact Or.inr rfl

end Tasks

structure FlushContext.Holds (context : FlushContext) (handover : Handover) : Prop where
  level : context.level = handover.level
  serialLevel : context.serialLevel = handover.serialLevel
  plain : context.statements = handover.statements.filter fun pending => !pending.counter
  counters : context.counterStatements = handover.statements.filter fun pending => pending.counter
  callbacks : context.callbacks = handover.callbacks

namespace FlushContext

variable {context after : FlushContext} {handover : Handover} {levels : Option Level × Option Level}
  {past : List Happening}

theorem Holds.enveloped (holds : context.Holds handover) (type : BatchType)
    (statements : List PendingStatement) (tracing : Bool) :
    (context.enveloped type statements tracing).map (·.submission) =
      handover.envelope type tracing statements := by
  cases statements with
  | nil => rfl
  | cons first rest =>
      rw [Handover.envelope, ← holds.level, ← holds.serialLevel]
      rfl

theorem Holds.owes (holds : context.Holds handover) (batched : context.isBatch = true)
    (tracing : Bool) : context.owes tracing = handover.envelopes context.batchType tracing := by
  rw [owes_of_isBatch batched, holds.enveloped, holds.enveloped, holds.plain, holds.counters]
  rfl

theorem Holds.awaits (holds : context.Holds handover) (world : World) :
    context.awaits world = handover.calls world := by
  rw [FlushContext.awaits, holds.callbacks]
  rfl

theorem openSince_quiet (past : List Happening) {happening : Happening}
    (quiet : happening.isQuiet = true) :
    openSince (past ++ [happening]) = openSince past ++ [happening] := by
  rw [openSince, List.rtakeWhile_concat_pos _ _ _ quiet]
  rfl

theorem openSince_loud (past : List Happening) {happening : Happening}
    (loud : happening.isQuiet = false) :
    openSince (past ++ [happening]) = [] := by
  rw [openSince, List.rtakeWhile_concat_neg _ _ _ (by simp [loud])]

theorem Holds.queued {statements : List PendingStatement} {callbacks : List Callback}
    (holds : context.Holds (.after levels past)) (adds : context.Adds after statements callbacks) :
    after.Holds (.after levels (past ++ [.queued statements callbacks])) := by
  have opened : openSince (past ++ [.queued statements callbacks]) =
      openSince past ++ [.queued statements callbacks] := openSince_quiet past rfl
  refine ⟨?_, ?_, ?_, ?_, ?_⟩
  · rw [adds.level, holds.level]
    simp [Handover.after, Happening.levels]
  · rw [adds.serialLevel, holds.serialLevel]
    simp [Handover.after, Happening.levels]
  · rw [adds.plain, holds.plain]
    simp [Handover.after, opened, Happening.statements]
  · rw [adds.counters, holds.counters]
    simp [Handover.after, opened, Happening.statements]
  · rw [adds.deferred, holds.callbacks]
    simp [Handover.after, opened, Happening.callbacks]

theorem Holds.kept (holds : context.Holds (.after levels past)) (adds : context.Adds after [] []) :
    after.Holds (.after levels (past ++ [.kept])) := by
  -- Queueing nothing comes to the same as leaving alone what is queued.
  have idle : openSince (past ++ [.kept]) = openSince past ++ [.kept] := openSince_quiet past rfl
  have empty : openSince (past ++ [.queued [] []]) = openSince past ++ [.queued [] []] :=
    openSince_quiet past rfl
  have same : Handover.after levels (past ++ [.kept]) =
      .after levels (past ++ [.queued [] []]) := by
    simp [Handover.after, idle, empty, Happening.levels, Happening.statements, Happening.callbacks]
  rw [same]
  exact holds.queued adds

/-- Nothing is queued after anything that ends what has been open. -/
theorem holds_of_loud {happening : Happening} (loud : happening.isQuiet = false)
    (level : after.level = (Happening.levels (past.foldl Happening.levels levels) happening).1)
    (serialLevel :
      after.serialLevel = (Happening.levels (past.foldl Happening.levels levels) happening).2)
    (statements : after.statements = []) (counters : after.counterStatements = [])
    (callbacks : after.callbacks = []) : after.Holds (.after levels (past ++ [happening])) := by
  have opened := openSince_loud past loud
  refine ⟨?_, ?_, ?_, ?_, ?_⟩
  · rw [level]
    simp [Handover.after]
  · rw [serialLevel]
    simp [Handover.after]
  · simp [statements, Handover.after, opened]
  · simp [counters, Handover.after, opened]
  · simp [callbacks, Handover.after, opened]

end FlushContext

/-- The callbacks that an operation makes are for post events on entities that can be locked. -/
theorem BatchOperation.Makes.fit {batch : Batch} {world : World} {operation : BatchOperation}
    {statements : List PendingStatement} {callbacks : List Callback}
    (makes : operation.Makes batch world statements callbacks) :
    ∀ callback ∈ callbacks, callback.event.isPost = true ∧ world.Unlocked callback.entity := by
  intro callback member
  cases makes with
  | @operation given _ _ makes =>
      obtain ⟨⟨named, known, faultless, stamps, generated⟩, pends⟩ := makes
      refine ⟨given.isPost_postponed _ callback member, ?_⟩
      cases given with
      | write kind entity options =>
          simp only [Operation.postponed, FlushContext.deferredOn] at member
          split at member
          · rw [List.mem_singleton.mp member]
            exact World.unlocked_iff.mpr ⟨_, named⟩
          · cases member
      | removeById entity key options => cases member
  | native => cases member

namespace FlushContext

variable {context after : FlushContext} {world : World}

theorem ready_of_idle (batched : context.isBatch = true) (idle : context.callbacks = []) :
    context.Ready world := by
  refine ⟨batched, ?_, ?_⟩
  · rw [idle]
    exact List.forall_mem_nil _
  · rw [idle]
    exact List.forall_mem_nil _

theorem Ready.adds {statements : List PendingStatement} {callbacks : List Callback}
    (ready : context.Ready world) (adds : context.Adds after statements callbacks)
    (fit : ∀ callback ∈ callbacks, callback.event.isPost = true ∧ world.Unlocked callback.entity) :
    after.Ready world := by
  refine ⟨(isBatch_congr adds.mode).trans ready.batched, ?_, ?_⟩
  · rw [adds.deferred]
    exact List.forall_mem_append.mpr ⟨ready.post, fun callback member => (fit callback member).1⟩
  · rw [adds.deferred]
    exact List.forall_mem_append.mpr
      ⟨ready.unlocked, fun callback member => (fit callback member).2⟩

end FlushContext

namespace Session

/-- A session in which everything that waits can be done, and the batch holds what is open. -/
structure Sound (levels : Option Level × Option Level) (type : BatchType) (session : Session)
    (past : List Happening) : Prop where
  live : session.tasks.executor ≠ .dropping
  accepting : session.world.Accepting
  waiting : ∀ task ∈ session.tasks.waiting, task.2.Ready session.world
  ready : session.batch.context.Ready session.world
  type : session.batch.context.batchType = type
  holds : session.batch.context.Holds (.after levels past)

variable {levels : Option Level × Option Level} {type : BatchType} {session : Session}
  {past : List Happening} {move : Move} {happening : Happening}

structure Goes (levels : Option Level × Option Level) (type : BatchType) (session : Session)
    (past : List Happening) (happening : Happening) (next : Session) : Prop where
  sound : Sound levels type next (past ++ [happening])
  yields : session.tasks.Yields session.world
    ((happening.handsOver (.after levels past)).flatMap
      fun handover => handover.envelopes type session.world.tracing)
    ((happening.handsOver (.after levels past)).flatMap
      fun handover => handover.calls session.world)
    next.tasks next.world

/-- A move that leaves the tasks and the store alone. -/
theorem Sound.goes {batch : Batch} {world : World} (sound : Sound levels type session past)
    (unhanded : happening.handsOver (.after levels past) = [])
    (gains : session.world.Gains [] [] world)
    (ready : batch.context.Ready session.world) (same : batch.context.batchType = type)
    (holds : batch.context.Holds (.after levels (past ++ [happening]))) :
    Goes levels type session past happening ⟨batch, session.tasks, world⟩ := by
  have yields := Tasks.yields_of_gains sound.waiting gains
  refine ⟨⟨sound.live, gains.accepting sound.accepting, yields.ready, ready.gains gains, same,
    holds⟩, ?_⟩
  rw [unhanded]
  exact yields

/-- A move that takes what is open out of the batch and does it, or puts it among the tasks. -/
theorem Sound.hands {tasks : Tasks} {world : World} (sound : Sound levels type session past)
    (yields : session.tasks.Yields session.world
      (session.batch.context.owes session.world.tracing)
      (session.batch.context.awaits session.world) tasks world) :
    Goes levels type session past .handed ⟨session.batch.clean, tasks, world⟩ := by
  obtain ⟨done, heard, gains⟩ := yields.gains
  refine ⟨⟨?_, gains.accepting sound.accepting, yields.ready,
    FlushContext.ready_of_idle sound.ready.batched rfl, sound.type,
    FlushContext.holds_of_loud rfl ?_ ?_ rfl rfl rfl⟩, ?_⟩
  · intro dropping
    exact sound.live (yields.executor.symm.trans dropping)
  · exact sound.holds.level
  · exact sound.holds.serialLevel
  · have owes := sound.holds.owes sound.ready.batched session.world.tracing
    rw [sound.type] at owes
    simp only [Happening.handsOver, List.flatMap_singleton]
    rw [← owes, ← sound.holds.awaits]
    exact yields

theorem step_goes (sound : Sound levels type session past)
    (happens : Happens session move happening) :
    Goes levels type session past happening (session.step move) := by
  have holds := sound.holds
  have still : session.batch.context.clean.Ready session.world :=
    FlushContext.ready_of_idle sound.ready.batched rfl
  cases happens with
  | @queued operation statements callbacks performed makes =>
      have adds := Batch.perform_queued performed makes
      exact sound.goes rfl (session.batch.perform_gains operation session.world)
        (sound.ready.adds adds makes.fit) (adds.batchType.trans sound.type) (holds.queued adds)
  | @failed operation error fails accepts =>
      have adds := Batch.perform_failed fails accepts
      exact sound.goes rfl (session.batch.perform_gains operation session.world)
        (sound.ready.adds adds (List.forall_mem_nil _)) (adds.batchType.trans sound.type)
        (holds.kept adds)
  | @refused operation fault refuses =>
      rw [step, Batch.perform_refused refuses]
      exact sound.goes rfl (.refl _) still sound.type
        (FlushContext.holds_of_loud rfl holds.level holds.serialLevel rfl rfl rfl)
  | clean =>
      exact sound.goes rfl (.refl _) still sound.type
        (FlushContext.holds_of_loud rfl holds.level holds.serialLevel rfl rfl rfl)
  | restart level serialLevel =>
      exact sound.goes rfl (.refl _) ⟨still.batched, still.post, still.unlocked⟩ sound.type
        (FlushContext.holds_of_loud rfl rfl rfl rfl rfl rfl)
  | flush =>
      have gains := (FlushContext.run_gains sound.ready sound.accepting).2
      exact sound.hands (Tasks.yields_of_gains sound.waiting gains)
  | flushAsync =>
      exact sound.hands
        (Tasks.submit_yields sound.waiting sound.live sound.accepting sound.ready)
  | mutate entity mutation =>
      have gains := World.gains_update (fun record => record.entity_attempt mutation)
        session.world entity
      exact sound.goes rfl gains sound.ready sound.type (holds.kept (.refl _))
  | advance index =>
      have yields := Tasks.advance_yields sound.waiting sound.accepting index
      obtain ⟨done, heard, gains⟩ := yields.gains
      refine ⟨⟨?_, gains.accepting sound.accepting, yields.ready, sound.ready.gains gains,
        sound.type, holds.kept (.refl _)⟩, yields⟩
      intro dropping
      exact sound.live (yields.executor.symm.trans dropping)

/-- All the handovers of a run are yielded, whatever comes between. -/
theorem run_yields {moves : List Move} {happenings : List Happening}
    (happened : Happened session moves happenings) (sound : Sound levels type session past) :
    session.tasks.Yields session.world
      ((handovers levels past happenings).flatMap
        fun handover => handover.envelopes type session.world.tracing)
      ((handovers levels past happenings).flatMap fun handover => handover.calls session.world)
      (session.run moves).tasks (session.run moves).world := by
  induction happened generalizing past with
  | nil session => exact .refl sound.waiting
  | @cons session move moves happening happenings happens later ih =>
      have goes := step_goes sound happens
      obtain ⟨done, heard, gains⟩ := goes.yields.gains
      have rest := ih goes.sound
      have calls (handover : Handover) :
          handover.calls (session.step move).world = handover.calls session.world := by
        simp only [Handover.calls, gains.names]
      simp only [gains.tracing, calls] at rest
      rw [handovers, List.flatMap_append, List.flatMap_append]
      exact goes.yields.trans rest

theorem sound_start {executor : Executor} {world : World} (manager : EntityManager)
    (ordered unlogged : Bool) (level serialLevel : Option Level) (live : executor ≠ .dropping)
    (accepting : world.Accepting) :
    Sound (level, serialLevel) (if unlogged then .unlogged else .logged)
      (start manager ordered unlogged level serialLevel executor world) [] := by
  refine ⟨live, accepting, List.forall_mem_nil _, FlushContext.ready_of_idle ?_ rfl, rfl,
    ⟨rfl, rfl, rfl, rfl, rfl⟩⟩
  cases ordered <;> rfl

/-- In any order of the calls on a batch, of changes to the records, and of the parts of its
asynchronous flushes, once all of these are done the store has been sent exactly the envelopes of
the handovers: what was queued before a flush and not given up, in the order of the queue and at the
levels of the session then. Their callbacks have all been run once, and no others. -/
theorem handovers_arrive (manager : EntityManager) (ordered unlogged : Bool)
    (level serialLevel : Option Level) (executor : Executor) (world : World) (moves : List Move)
    (live : executor ≠ .dropping) (accepting : world.Accepting)
    (done : ((start manager ordered unlogged level serialLevel executor world).run
      moves).tasks.waiting = []) :
    ∃ happenings,
      Happened (start manager ordered unlogged level serialLevel executor world) moves
        happenings ∧
      (∀ others, Happened (start manager ordered unlogged level serialLevel executor world) moves
        others → others = happenings) ∧
      let final := (start manager ordered unlogged level serialLevel executor world).run moves
      let handed := handovers (level, serialLevel) [] happenings
      final.world.executed.Perm (world.executed ++ handed.flatMap fun handover =>
        handover.envelopes (if unlogged then .unlogged else .logged) world.tracing) ∧
      final.world.called.Perm
        (world.called ++ handed.flatMap fun handover => handover.calls world) ∧
      ∀ entry ∈ final.tasks.finished, entry.2 = .ok .applied := by
  obtain ⟨happenings, happened⟩ :=
    exists_happened (start manager ordered unlogged level serialLevel executor world) moves
  have sound := sound_start manager ordered unlogged level serialLevel live accepting
  have yields := run_yields happened sound
  refine ⟨happenings, happened, fun others also => also.unique happened, ?_, ?_, ?_⟩
  · have sent := yields.sent
    rw [Tasks.sent, done] at sent
    simpa [Tasks.sent, start, Tasks.new] using sent
  · have called := yields.called
    rw [Tasks.called, done] at called
    simpa [Tasks.called, start, Tasks.new] using called
  · intro entry member
    rcases yields.finished entry member with earlier | applied
    · cases earlier
    · exact applied

def watchedLeague : EntityManager :=
  ⟨[("Player", { playerSchema with
      interceptors := [⟨"audit", [.postPersist], fun _ => []⟩] })], Config.standard⟩

/-- Two asynchronous flushes of which the later one comes first, and a statement that is given up
between them. -/
def overtaking : List Move :=
  [.operation (.write .insert 0 .standard), .flushAsync,
    .operation (.native "DELETE FROM drafts" []), .restart (some .quorum) none,
    .mutate 0 (.set "club" (.text "Blues")),
    .operation (.native "UPDATE clubs SET open = ?" [.boolean true]), .flushAsync,
    .advance 1, .advance 0, .advance 1, .clean, .advance 0, .advance 0, .advance 0]

theorem handovers_arrive_overtaking :
    ((start watchedLeague false false none none .queued arena).run
      overtaking).world.executed.map (fun submission =>
        (submission.batchType?, submission.level?, submission.statements.map (·.query))) =
      [(some .logged, some .quorum, ["UPDATE clubs SET open = ?"]),
        (some .logged, some .one,
          ["INSERT INTO players (id, name, club, scores) VALUES (?, ?, ?, ?)"]),
        (some .counter, some .one,
          ["UPDATE players_counters SET wins = wins + ? WHERE id = ?"])] ∧
    ∃ happenings,
      Happened (start watchedLeague false false none none .queued arena) overtaking happenings ∧
      (∀ others, Happened (start watchedLeague false false none none .queued arena) overtaking
        others → others = happenings) ∧
      let final := (start watchedLeague false false none none .queued arena).run overtaking
      let handed := handovers (none, none) [] happenings
      final.world.executed.Perm (arena.executed ++ handed.flatMap fun handover =>
        handover.envelopes .logged arena.tracing) ∧
      final.world.called.Perm
        (arena.called ++ handed.flatMap fun handover => handover.calls arena) ∧
      ∀ entry ∈ final.tasks.finished, entry.2 = .ok .applied := by
  have accepting : arena.Accepting := by
    intro index
    refine ⟨ResultSet.empty, rfl, ?_⟩
    rintro ⟨row, rest, rows, _⟩
    cases rows
  have done : ((start watchedLeague false false none none .queued arena).run
      overtaking).tasks.waiting = [] := rfl
  exact ⟨rfl, handovers_arrive watchedLeague false false none none .queued arena overtaking nofun
    accepting done⟩

end Session

end CqlMapper
