import CqlMapper.Proofs.Session.Together

/-!
Work that is carried out part by part, so that other work may come between: an envelope at a time,
then a callback at a time. On a store that accepts everything each part does what it is there for,
and nothing else in the world gets in its way.
-/

namespace CqlMapper

namespace FlushContext

abbrev Progress := FlushContext ⊕ Except WriteError Outcome

def goOn (rest : FlushContext) : Except WriteError Outcome × World → Progress × World
  | (.ok .applied, world) => (.inl rest, world)
  | (stopped, world) => (.inr stopped, world)

def advance (context : FlushContext) (world : World) : Progress × World :=
  match context.statements, context.counterStatements, context.callbacks with
  | _ :: _, _, _ =>
    goOn { context with statements := [] }
      (context.executeEnvelope context.batchType context.statements world)
  | [], _ :: _, _ =>
    goOn { context with counterStatements := [] }
      (context.executeEnvelope .counter context.counterStatements world)
  | [], [], callback :: rest =>
    match callback.run world with
    | (.ok (), world) => (.inl { context with callbacks := rest }, world)
    | (.error error, world) => (.inr (.error error), world)
  | [], [], [] => (.inr (.ok .applied), world)

def parts (context : FlushContext) : Nat :=
  min 1 context.statements.length + min 1 context.counterStatements.length +
    context.callbacks.length

variable {context rest : FlushContext} {world after : World}

theorem isBatch_congr (mode : rest.mode = context.mode) : rest.isBatch = context.isBatch := by
  rw [isBatch, mode]
  rfl

theorem execute_of_isBatch (batched : context.isBatch = true) (world : World) :
    context.execute world =
      match context.executeEnvelope context.batchType context.statements world with
      | (.ok .applied, world) => context.executeEnvelope .counter context.counterStatements world
      | stopped => stopped := by
  unfold isBatch at batched
  unfold execute
  cases mode : context.mode with
  | immediate => simp [mode] at batched
  | batch => rfl
  | orderedBatch => rfl

theorem executeEnvelope_nil (context : FlushContext) (type : BatchType) (world : World) :
    context.executeEnvelope type [] world = (.ok .applied, world) :=
  rfl

/-- Part after part a batch does what it does at once. -/
theorem run_advance (batched : context.isBatch = true) (world : World) :
    context.run world = match context.advance world with
      | (.inl rest, after) => rest.run after
      | (.inr result, after) => (result, after) := by
  obtain ⟨mode, type, statements, counters, callbacks, level, serialLevel, clock⟩ := context
  have still (others : FlushContext) (same : others.mode = mode) : others.isBatch = true :=
    (isBatch_congr same).trans batched
  unfold run
  rw [execute_of_isBatch batched]
  cases statements with
  | cons first others =>
      simp only [advance]
      generalize envelope : executeEnvelope _ type (first :: others) world = executed
      obtain ⟨outcome, after⟩ := executed
      rcases outcome with error | _ | rejection
      · rfl
      · simp only [goOn]
        rw [execute_of_isBatch (still _ rfl)]
        rfl
      · rfl
  | nil =>
      cases counters with
      | cons first others =>
          simp only [advance, executeEnvelope_nil]
          generalize envelope : executeEnvelope _ .counter (first :: others) world = executed
          obtain ⟨outcome, after⟩ := executed
          rcases outcome with error | _ | rejection
          · rfl
          · simp only [goOn]
            rw [execute_of_isBatch (still _ rfl)]
            rfl
          · rfl
      | nil =>
          cases callbacks with
          | cons callback others =>
              simp only [advance, executeEnvelope_nil, Callback.runAll]
              rcases callback.run world with ⟨error | _, after⟩
              · rfl
              · dsimp only
                rw [execute_of_isBatch (still _ rfl)]
                rfl
          | nil => rfl

theorem goOn_inl {executed : Except WriteError Outcome × World} {left : FlushContext}
    (goes : goOn left executed = (.inl rest, after)) :
    rest = left ∧ executed = (.ok .applied, after) := by
  obtain ⟨outcome, final⟩ := executed
  rcases outcome with error | _ | rejection <;> cases goes
  exact ⟨rfl, rfl⟩

/-- What is left has fewer parts and belongs to the same session. -/
theorem advance_inl (goes : context.advance world = (.inl rest, after)) :
    rest.parts < context.parts ∧ rest.mode = context.mode := by
  obtain ⟨mode, type, statements, counters, callbacks, level, serialLevel, clock⟩ := context
  cases statements with
  | cons first others =>
      obtain ⟨rfl, _⟩ := goOn_inl goes
      simp [parts]
  | nil =>
      cases counters with
      | cons first others =>
          obtain ⟨rfl, _⟩ := goOn_inl goes
          simp [parts]
      | nil =>
          cases callbacks with
          | cons callback others =>
              simp only [advance] at goes
              rcases ran : callback.run world with ⟨error | _, final⟩ <;> rw [ran] at goes <;>
                cases goes
              simp [parts]
          | nil => cases goes

end FlushContext

namespace Tasks

def advance (tasks : Tasks) (index : Nat) (world : World) : Tasks × World :=
  match tasks.waiting[index]? with
  | none => (tasks, world)
  | some (ticket, context) =>
    match context.advance world with
    | (.inl rest, world) =>
      ({ tasks with waiting := tasks.waiting.set index (ticket, rest) }, world)
    | (.inr result, world) =>
      ({ tasks with
          waiting := tasks.waiting.eraseIdx index
          finished := tasks.finished ++ [(ticket, result)] }, world)

def advanceAll (state : Tasks × World) (indices : List Nat) : Tasks × World :=
  indices.foldl (fun state index => state.1.advance index state.2) state

theorem advanceAll_append (state : Tasks × World) (first second : List Nat) :
    advanceAll state (first ++ second) = advanceAll (advanceAll state first) second :=
  List.foldl_append

/-- A task that waits in front is carried out as a whole in some number of parts. -/
theorem run_advances (tasks : Tasks) {ticket : Ticket} {context : FlushContext}
    (others : List (Ticket × FlushContext)) (batched : context.isBatch = true) (world : World) :
    ∃ indices, advanceAll ({ tasks with waiting := (ticket, context) :: others }, world) indices =
      ({ tasks with
          waiting := others
          finished := tasks.finished ++ [(ticket, (context.run world).1)] },
        (context.run world).2) := by
  induction parts : context.parts using Nat.strongRecOn generalizing context world with
  | ind count ih =>
      rw [FlushContext.run_advance batched]
      rcases goes : context.advance world with ⟨rest | result, after⟩
      · obtain ⟨fewer, mode⟩ := FlushContext.advance_inl goes
        have still : rest.isBatch = true := (FlushContext.isBatch_congr mode).trans batched
        obtain ⟨indices, same⟩ := ih rest.parts (parts ▸ fewer) still after rfl
        refine ⟨0 :: indices, ?_⟩
        rw [← same]
        simp [advanceAll, advance, goes]
      · exact ⟨[0], by simp [advanceAll, advance, goes]⟩

/-- The queue worked off by whole tasks is one way of carrying out their parts. -/
theorem work_advances (count : Nat) (tasks : Tasks)
    (batched : ∀ task ∈ tasks.waiting, task.2.isBatch = true) (world : World) :
    ∃ indices, advanceAll (tasks, world) indices = (tasks.work count world).2 := by
  induction count generalizing tasks world with
  | zero => exact ⟨[], rfl⟩
  | succ count ih =>
      obtain ⟨executor, waiting, finished, next⟩ := tasks
      cases waiting with
      | nil => exact ⟨[], rfl⟩
      | cons task others =>
          obtain ⟨first, later⟩ := List.forall_mem_cons.mp batched
          obtain ⟨indices, same⟩ :=
            run_advances ⟨executor, [], finished, next⟩ others first world
          obtain ⟨more, worked⟩ := ih ⟨executor, others, _, next⟩ later (task.2.run world).2
          refine ⟨indices ++ more, ?_⟩
          rw [advanceAll_append]
          exact (congrArg (advanceAll · more) same).trans worked

end Tasks

namespace World

def called (world : World) : List (String × String × Event) :=
  world.interceptions.filter fun call => call.2.2.isPost

structure Gains (world : World) (sent : List Submission) (calls : List (String × String × Event))
    (final : World) : Prop where
  executed : final.executed = world.executed ++ sent
  called : final.called = world.called ++ calls
  accepting : world.Accepting → final.Accepting
  tracing : final.tracing = world.tracing
  names : ∀ entity, final.entityName entity = world.entityName entity

variable {world middle final : World} {sent others : List Submission}
  {calls further : List (String × String × Event)}

theorem Gains.refl (world : World) : world.Gains [] [] world :=
  ⟨(List.append_nil _).symm, (List.append_nil _).symm, id, rfl, fun _ => rfl⟩

theorem Gains.trans (first : world.Gains sent calls middle)
    (second : middle.Gains others further final) :
    world.Gains (sent ++ others) (calls ++ further) final := by
  refine ⟨?_, ?_, second.accepting ∘ first.accepting, second.tracing.trans first.tracing, ?_⟩
  · rw [second.executed, first.executed, List.append_assoc]
  · rw [second.called, first.called, List.append_assoc]
  · intro entity
    rw [second.names, first.names]

theorem Gains.unlocked (gains : world.Gains sent calls final) {entity : EntityRef}
    (unlocked : world.Unlocked entity) : final.Unlocked entity := by
  rw [unlocked_iff] at unlocked ⊢
  rwa [gains.names]

theorem Settles.gains {exchanges : List Exchange} (settles : world.Settles exchanges final) :
    world.Gains (exchanges.map (·.dispatch.submission)) [] final := by
  refine ⟨settles.executed, ?_, settles.accepting, settles.tracing, ?_⟩
  · rw [called, settles.interceptions, List.append_nil]
    rfl
  · intro entity
    exact entityName_congr settles.cells entity

theorem sameStore_fire (world : World) (callback : Callback) :
    world.SameStore (callback.fire world) := by
  unfold Callback.fire Callback.run
  split <;> exact ⟨rfl, rfl⟩

theorem gains_fire (world : World) (callback : Callback) :
    world.Gains [] (if callback.event.isPost then callback.calls (world.entityName callback.entity)
      else []) (callback.fire world) := by
  have store := world.sameStore_fire callback
  refine ⟨?_, ?_, store.accepting, store.tracing,
    fun entity => entityName_fire world callback entity⟩
  · rw [store.executed, List.append_nil]
  · have events : ∀ call ∈ callback.calls (world.entityName callback.entity),
        call.2.2 = callback.event := by
      intro call member
      unfold Callback.calls at member
      split at member
      · obtain ⟨interceptor, _, rfl⟩ := List.mem_map.mp member
        rfl
      · cases member
    rw [called, interceptions_fire, List.filter_append]
    congr 1
    split
    · rename_i post
      rw [List.filter_eq_self]
      intro call member
      rw [events call member]
      exact post
    · rename_i pre
      rw [List.filter_eq_nil_iff]
      intro call member
      rw [events call member]
      exact pre

end World

namespace FlushContext

def owes (context : FlushContext) (tracing : Bool) : List Submission :=
  (context.dispatches tracing).map (·.submission)

def awaits (context : FlushContext) (world : World) : List (String × String × Event) :=
  context.callbacks.flatMap fun callback => callback.calls (world.entityName callback.entity)

structure Ready (context : FlushContext) (world : World) : Prop where
  batched : context.isBatch = true
  post : ∀ callback ∈ context.callbacks, callback.event.isPost = true
  unlocked : ∀ callback ∈ context.callbacks, world.Unlocked callback.entity

variable {context rest : FlushContext} {world after : World}

theorem Ready.gains {sent : List Submission} {calls : List (String × String × Event)}
    (ready : context.Ready world) (gains : world.Gains sent calls after) : context.Ready after :=
  ⟨ready.batched, ready.post,
    fun callback member => gains.unlocked (ready.unlocked callback member)⟩

theorem awaits_congr {sent : List Submission} {calls : List (String × String × Event)}
    (gains : world.Gains sent calls after) (context : FlushContext) :
    context.awaits after = context.awaits world := by
  unfold awaits
  simp only [gains.names]

theorem owes_of_isBatch (batched : context.isBatch = true) (tracing : Bool) :
    context.owes tracing =
      (context.enveloped context.batchType context.statements tracing).map (·.submission) ++
        (context.enveloped .counter context.counterStatements tracing).map (·.submission) := by
  rw [owes, dispatches_of_isBatch batched, List.map_append]

theorem executeEnvelope_gains (context : FlushContext) (type : BatchType)
    (statements : List PendingStatement) (accepting : world.Accepting) :
    ∃ after, context.executeEnvelope type statements world = (.ok .applied, after) ∧
      world.Gains ((context.enveloped type statements world.tracing).map (·.submission)) []
        after := by
  obtain ⟨exchanges, carried, settles⟩ := context.executeEnvelope_settles type statements world
  have applied := carried.applied_of_accepting accepting
  rw [applied] at carried
  have gains := settles.gains
  rw [← carried.complete, List.map_map]
  exact ⟨_, Prod.ext applied rfl, gains⟩

inductive Advances (context : FlushContext) (world : World) : Progress → World → Prop
  | part {rest : FlushContext} {sent : List Submission} {calls : List (String × String × Event)}
      {after : World} (gains : world.Gains sent calls after) (ready : rest.Ready after)
      (owes : context.owes world.tracing = sent ++ rest.owes world.tracing)
      (awaits : context.awaits world = calls ++ rest.awaits world) :
      Advances context world (.inl rest) after
  | finished (owes : context.owes world.tracing = []) (awaits : context.awaits world = []) :
      Advances context world (.inr (.ok .applied)) world

theorem advance_advances (ready : context.Ready world) (accepting : world.Accepting) :
    context.Advances world (context.advance world).1 (context.advance world).2 := by
  obtain ⟨batched, post, unlocked⟩ := ready
  obtain ⟨mode, type, statements, counters, callbacks, level, serialLevel, clock⟩ := context
  have owed (rest : FlushContext) (same : rest.mode = mode) :=
    owes_of_isBatch ((isBatch_congr same).trans batched) world.tracing
  cases statements with
  | cons first others =>
      obtain ⟨after, executed, gains⟩ := executeEnvelope_gains
        ⟨mode, type, first :: others, counters, callbacks, level, serialLevel, clock⟩ type
        (first :: others) accepting
      simp only [advance, executed, goOn]
      refine .part gains ⟨batched, post, fun callback member => ?_⟩ ?_ rfl
      · exact gains.unlocked (unlocked callback member)
      · rw [owed _ rfl, owed _ rfl]
        rfl
  | nil =>
      cases counters with
      | cons first others =>
          obtain ⟨after, executed, gains⟩ := executeEnvelope_gains
            ⟨mode, type, [], first :: others, callbacks, level, serialLevel, clock⟩ .counter
            (first :: others) accepting
          simp only [advance, executed, goOn]
          refine .part gains ⟨batched, post, fun callback member => ?_⟩ ?_ rfl
          · exact gains.unlocked (unlocked callback member)
          · rw [owed _ rfl, owed _ rfl]
            rfl
      | nil =>
          cases callbacks with
          | cons callback others =>
              obtain ⟨here, later⟩ := List.forall_mem_cons.mp post
              obtain ⟨open_, others_open⟩ := List.forall_mem_cons.mp unlocked
              have gains := world.gains_fire callback
              rw [if_pos here] at gains
              simp only [advance, callback.run_ok open_]
              refine .part gains ⟨batched, later, fun next member => ?_⟩ ?_ rfl
              · exact gains.unlocked (others_open next member)
              · rw [owed _ rfl, owed _ rfl]
                rfl
          | nil =>
              refine .finished ?_ rfl
              rw [owed _ rfl]
              rfl

/-- The run of a batch does everything that the batch stands for. -/
theorem run_gains (ready : context.Ready world) (accepting : world.Accepting) :
    (context.run world).1 = .ok .applied ∧
      world.Gains (context.owes world.tracing) (context.awaits world) (context.run world).2 := by
  induction parts : context.parts using Nat.strongRecOn generalizing context world with
  | ind count ih =>
      have advances := advance_advances ready accepting
      rw [run_advance ready.batched]
      rcases goes : context.advance world with ⟨progress, after⟩
      rw [goes] at advances
      cases advances with
      | part gains still owes awaits =>
          have fewer := (advance_inl goes).1
          obtain ⟨applied, further⟩ :=
            ih _ (parts ▸ fewer) still (gains.accepting accepting) rfl
          refine ⟨applied, ?_⟩
          rw [owes, awaits]
          rw [gains.tracing, awaits_congr gains] at further
          exact gains.trans further
      | finished owes awaits =>
          rw [owes, awaits]
          exact ⟨rfl, .refl _⟩

end FlushContext

end CqlMapper
