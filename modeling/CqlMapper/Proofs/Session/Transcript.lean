import Mathlib.Data.List.Forall2
import CqlMapper.Proofs.Conditional.Verdict

/-!
Transcripts of an execution: what a flush context has to submit, and what it does submit against the
answers of the store. Submissions follow one another in order, and the first that is not applied
ends the execution.
-/

namespace CqlMapper

structure Dispatch where
  pending : List PendingStatement
  submission : Submission

structure Exchange where
  dispatch : Dispatch
  answer : Answer

inductive Carried :
    List Dispatch → (Nat → Answer) → List Exchange → Except WriteError Outcome → Prop
  | finished (answers : Nat → Answer) : Carried [] answers [] (.ok .applied)
  | stopped {dispatch : Dispatch} {rest : List Dispatch} {answers : Nat → Answer}
      {outcome : Except WriteError Outcome}
      (verdict : Verdict dispatch.submission.statements (answers 0) outcome)
      (stops : outcome ≠ .ok .applied) :
      Carried (dispatch :: rest) answers [⟨dispatch, answers 0⟩] outcome
  | onward {dispatch : Dispatch} {rest : List Dispatch} {answers : Nat → Answer}
      {exchanges : List Exchange} {outcome : Except WriteError Outcome}
      (verdict : Verdict dispatch.submission.statements (answers 0) (.ok .applied))
      (later : Carried rest (fun index => answers (index + 1)) exchanges outcome) :
      Carried (dispatch :: rest) answers (⟨dispatch, answers 0⟩ :: exchanges) outcome

namespace Carried

variable {dispatches rest : List Dispatch} {answers : Nat → Answer} {exchanges : List Exchange}
  {outcome : Except WriteError Outcome}

theorem isPrefix (carried : Carried dispatches answers exchanges outcome) :
    exchanges.map (·.dispatch) <+: dispatches := by
  induction carried with
  | finished answers => exact List.prefix_rfl
  | stopped verdict stops => exact List.prefix_append [_] _
  | onward verdict later ih => exact List.prefix_cons_inj _ |>.mpr ih

/-- When all was applied, everything was submitted. -/
theorem complete (carried : Carried dispatches answers exchanges (.ok .applied)) :
    exchanges.map (·.dispatch) = dispatches := by
  generalize final : (.ok .applied : Except WriteError Outcome) = outcome at carried
  induction carried with
  | finished answers => rfl
  | stopped verdict stops => exact absurd final.symm stops
  | onward verdict later ih => rw [List.map_cons, ih final]

theorem applied_iff (carried : Carried dispatches answers exchanges outcome) :
    outcome = .ok .applied ↔ exchanges.map (·.dispatch) = dispatches ∧
      ∀ exchange ∈ exchanges,
        Verdict exchange.dispatch.submission.statements exchange.answer (.ok .applied) := by
  induction carried with
  | finished answers => simp
  | stopped verdict stops =>
      constructor
      · intro applied
        exact absurd applied stops
      · rintro ⟨_, accepted⟩
        exact verdict.unique (accepted _ List.mem_cons_self)
  | onward verdict later ih =>
      constructor
      · intro applied
        obtain ⟨sent, accepted⟩ := ih.mp applied
        exact ⟨by rw [List.map_cons, sent], List.forall_mem_cons.mpr ⟨verdict, accepted⟩⟩
      · rintro ⟨sent, accepted⟩
        have rest := (List.cons.inj sent).2
        exact ih.mpr ⟨rest, (List.forall_mem_cons.mp accepted).2⟩

/-- Whatever comes before another submission was applied. -/
theorem applied_before (carried : Carried dispatches answers exchanges outcome)
    {before after : List Exchange} {exchange : Exchange}
    (split : exchanges = before ++ exchange :: after) :
    ∀ other ∈ before,
      Verdict other.dispatch.submission.statements other.answer (.ok .applied) := by
  induction carried generalizing before with
  | finished answers => simp at split
  | stopped verdict stops =>
      cases before with
      | nil => exact List.forall_mem_nil _
      | cons first before => simp at split
  | onward verdict later ih =>
      cases before with
      | nil => exact List.forall_mem_nil _
      | cons first before =>
          obtain ⟨rfl, rest⟩ := List.cons.inj split
          exact List.forall_mem_cons.mpr ⟨verdict, ih rest⟩

/-- A store that accepts everything applies everything. -/
theorem applied_of_accepting (carried : Carried dispatches answers exchanges outcome)
    (accepting : ∀ index, Answer.Accepts (answers index)) : outcome = .ok .applied := by
  induction carried with
  | finished answers => rfl
  | @stopped _ _ answers _ verdict stops =>
      obtain ⟨result, given, accepts⟩ := accepting 0
      rw [given] at verdict
      cases verdict with
      | unasked | applied => rfl
      | rejected _ asked rows refusal | unreadable _ asked rows refusal =>
          exact absurd ⟨_, _, rows, refusal⟩ accepts
  | onward verdict later ih => exact ih fun index => accepting (index + 1)

/-- A store that has no rows to show applies everything. -/
theorem applied_of_empty (carried : Carried dispatches answers exchanges outcome)
    (quiet : answers = fun _ => .ok ResultSet.empty) : outcome = .ok .applied := by
  refine carried.applied_of_accepting fun index => ⟨ResultSet.empty, by rw [quiet], ?_⟩
  rintro ⟨row, rest, rows, _⟩
  cases rows

/-- A dispatch that has nothing after it is submitted, however it turns out. -/
theorem complete_of_length (carried : Carried dispatches answers exchanges outcome)
    (short : dispatches.length ≤ 1) : exchanges.map (·.dispatch) = dispatches := by
  cases carried with
  | finished => rfl
  | @stopped _ rest =>
      cases rest with
      | nil => rfl
      | cons next rest => simp at short
  | @onward _ rest _ _ _ verdict later =>
      cases rest with
      | nil =>
          cases later
          rfl
      | cons next rest => simp at short

theorem single {dispatch : Dispatch}
    (verdict : Verdict dispatch.submission.statements (answers 0) outcome) :
    Carried [dispatch] answers [⟨dispatch, answers 0⟩] outcome := by
  by_cases applied : outcome = .ok .applied
  · subst outcome
    exact .onward verdict (.finished _)
  · exact .stopped verdict applied

theorem append {others : List Exchange}
    (carried : Carried dispatches answers exchanges (.ok .applied))
    (next : Carried rest (fun index => answers (index + exchanges.length)) others outcome) :
    Carried (dispatches ++ rest) answers (exchanges ++ others) outcome := by
  generalize final : (.ok .applied : Except WriteError Outcome) = first at carried
  induction carried with
  | finished answers => exact next
  | stopped verdict stops => exact absurd final.symm stops
  | onward verdict later ih =>
      refine .onward verdict (ih ?_ final)
      simpa [Nat.add_assoc, Nat.add_comm 1] using next

theorem append_stopped (carried : Carried dispatches answers exchanges outcome)
    (stops : outcome ≠ .ok .applied) (rest : List Dispatch) :
    Carried (dispatches ++ rest) answers exchanges outcome := by
  induction carried with
  | finished answers => exact absurd rfl stops
  | stopped verdict stopped => exact .stopped verdict stopped
  | onward verdict later ih => exact .onward verdict (ih stops)

end Carried

def PendingStatement.tells (pending : PendingStatement) (outcome : Outcome) :
    List (Listener × Outcome) :=
  if isConditionalQuery pending.query then
    (pending.listener.filter fun listener => listener.hears outcome).toList.map
      fun listener => (listener, outcome)
  else []

/-- What an exchange tells listeners. When there is no outcome, nobody hears of it. -/
inductive Exchange.Tells (exchange : Exchange) : List (Listener × Outcome) → Prop
  | known {outcome : Outcome}
      (verdict : Verdict exchange.dispatch.submission.statements exchange.answer (.ok outcome)) :
      Tells exchange (exchange.dispatch.pending.flatMap fun pending => pending.tells outcome)
  | unknown {error : WriteError}
      (verdict : Verdict exchange.dispatch.submission.statements exchange.answer (.error error)) :
      Tells exchange []

namespace World

def executed (world : World) : List Submission :=
  world.backend.store.executed

def answers (world : World) : Nat → Answer :=
  fun index => world.backend.store.answers.getD index (.ok ResultSet.empty)

def interceptions (world : World) : List (String × String × Event) :=
  world.notices.filterMap fun
    | .intercepted label entity event => some (label, entity, event)
    | .heard _ _ | .logged _ => none

def heard (world : World) : List (Listener × Outcome) :=
  world.notices.filterMap fun
    | .heard listener outcome => some (listener, outcome)
    | .intercepted _ _ _ | .logged _ => none

/-- Nothing but submissions, notices to listeners and log entries has come to a world. -/
structure Settles (world : World) (exchanges : List Exchange) (final : World) : Prop where
  executed : final.executed = world.executed ++ exchanges.map (·.dispatch.submission)
  answers : final.answers = fun index => world.answers (index + exchanges.length)
  cells : final.cells = world.cells
  wall : final.wall = world.wall
  tracing : final.tracing = world.tracing
  interceptions : final.interceptions = world.interceptions

variable {world middle final : World} {exchanges others : List Exchange}

theorem Settles.refl (world : World) : world.Settles [] world :=
  ⟨(List.append_nil _).symm, rfl, rfl, rfl, rfl, rfl⟩

theorem Settles.trans (first : world.Settles exchanges middle)
    (second : middle.Settles others final) : world.Settles (exchanges ++ others) final := by
  refine ⟨?_, ?_, second.cells.trans first.cells, second.wall.trans first.wall,
    second.tracing.trans first.tracing, second.interceptions.trans first.interceptions⟩
  · rw [second.executed, first.executed, List.map_append, List.append_assoc]
  · rw [second.answers, first.answers]
    funext index
    simp only [List.length_append]
    congr 1
    omega

theorem settles_log (world : World) (entries : List LogEntry) :
    world.Settles [] (world.log entries) := by
  refine ⟨(List.append_nil _).symm, rfl, rfl, rfl, rfl, ?_⟩
  simp [interceptions, log, note, List.filterMap_append, List.filterMap_map]

theorem settles_logInfo (world : World) (result : ResultSet) :
    world.Settles [] (world.logInfo result) := by
  unfold logInfo
  split
  · exact settles_log world _
  · exact .refl world

theorem settles_notify (world : World) (listener : Option Listener) (outcome : Outcome) :
    world.Settles [] (world.notify listener outcome) := by
  unfold notify
  split
  · exact .refl world
  · split
    · refine ⟨(List.append_nil _).symm, rfl, rfl, rfl, rfl, ?_⟩
      simp [interceptions, note, List.filterMap_append]
    · exact .refl world

theorem submit_answer (world : World) (submission : Submission) :
    (world.submit submission).1 = world.answers 0 := by
  have next : world.backend.store.nextAnswer = world.answers 0 := by
    unfold ScriptedStore.nextAnswer answers
    cases world.backend.store.answers <;> rfl
  rw [← next]
  simp only [submit, Backend.submit, ScriptedStore.submit]
  cases world.backend.store.nextAnswer <;> rfl

theorem submit_store (world : World) (submission : Submission) :
    (world.submit submission).2.backend.store =
      ⟨world.executed ++ [submission], world.backend.store.answers.drop 1⟩ := by
  simp only [submit, Backend.submit, ScriptedStore.submit]
  cases world.backend.store.nextAnswer <;> rfl

theorem settles_submit (world : World) (dispatch : Dispatch) :
    world.Settles [⟨dispatch, world.answers 0⟩] (world.submit dispatch.submission).2 := by
  have store := submit_store world dispatch.submission
  refine ⟨?_, ?_, rfl, rfl, rfl, rfl⟩
  · rw [executed, store]
    rfl
  · funext index
    rw [answers, store]
    simp [answers, List.getD_eq_getElem?_getD]

theorem settles_sent (dispatch : Dispatch) {entries : List LogEntry} {answer : Answer}
    {after : World} (sent : (world.log entries).submit dispatch.submission = (answer, after)) :
    answer = world.answers 0 ∧ world.Settles [⟨dispatch, world.answers 0⟩] after := by
  have given := submit_answer (world.log entries) dispatch.submission
  have submitted := settles_submit (world.log entries) dispatch
  rw [sent] at given submitted
  exact ⟨given, (settles_log world entries).trans submitted⟩

theorem heard_log (world : World) (entries : List LogEntry) :
    (world.log entries).heard = world.heard := by
  simp [heard, log, note, List.filterMap_append, List.filterMap_map]

theorem heard_logInfo (world : World) (result : ResultSet) :
    (world.logInfo result).heard = world.heard := by
  unfold logInfo
  split
  · exact heard_log world _
  · rfl

theorem heard_sent {submission : Submission} {entries : List LogEntry} {answer : Answer}
    {after : World} (sent : (world.log entries).submit submission = (answer, after)) :
    after.heard = world.heard := by
  have submitted : ((world.log entries).submit submission).2.heard = world.heard :=
    heard_log world entries
  rwa [sent] at submitted

theorem heard_notify (world : World) (listener : Option Listener) (outcome : Outcome) :
    (world.notify listener outcome).heard = world.heard ++
      (listener.filter fun listener => listener.hears outcome).toList.map
        fun listener => (listener, outcome) := by
  unfold notify
  cases listener with
  | none => simp
  | some listener =>
      by_cases hears : listener.hears outcome = true
      · simp [hears, heard, note, List.filterMap_append, Option.filter_some]
      · simp [hears, Option.filter_some]

end World

namespace FlushContext

def enveloped (context : FlushContext) (type : BatchType) (statements : List PendingStatement)
    (tracing : Bool) : List Dispatch :=
  statements.head?.toList.map fun first =>
    ⟨statements, .batch (context.envelope type first statements tracing)⟩

def dispatches (context : FlushContext) (tracing : Bool) : List Dispatch :=
  match context.mode with
  | .immediate => (context.statements ++ context.counterStatements).map fun pending =>
      ⟨[pending], .single (pending.single tracing)⟩
  | .batch | .orderedBatch => context.enveloped context.batchType context.statements tracing ++
      context.enveloped .counter context.counterStatements tracing

def alone (tracing : Bool) (pending : PendingStatement) : Dispatch :=
  ⟨[pending], .single ⟨pending.query, pending.values, some pending.level, pending.serialLevel,
    tracing⟩⟩

theorem executeOne_settles (pending : PendingStatement) (world : World) :
    Verdict [pending.single world.tracing] (world.answers 0) (executeOne pending world).1 ∧
      world.Settles [⟨alone world.tracing pending, world.answers 0⟩]
        (executeOne pending world).2 ∧
      ∃ told, Exchange.Tells ⟨alone world.tracing pending, world.answers 0⟩ told ∧
        (executeOne pending world).2.heard = world.heard ++ told := by
  unfold executeOne
  dsimp only
  cases sent : (world.log [.statement false (pending.single world.tracing)]).submit
      (.single (pending.single world.tracing)) with
  | mk answer after =>
      obtain ⟨given, settled⟩ := World.settles_sent (alone world.tracing pending) sent
      have silent := World.heard_sent sent
      cases answer with
      | error error =>
          rw [← given] at settled ⊢
          exact ⟨.failed error, settled, [], .unknown (.failed error), by simpa using silent⟩
      | ok result =>
          have verdict := interpretBatch_verdict [pending.single world.tracing] result
          rw [← interpret_eq_interpretBatch] at verdict
          have informed := settled.trans (after.settles_logInfo result)
          have heard := (after.heard_logInfo result).trans silent
          dsimp only
          rw [← given] at informed ⊢
          cases read : interpret (pending.single world.tracing).query result with
          | error error =>
              rw [read] at verdict
              exact ⟨verdict, informed, [], .unknown verdict, by simpa using heard⟩
          | ok outcome =>
              rw [read] at verdict
              refine ⟨verdict, ?_, pending.tells outcome, ?_, ?_⟩
              · dsimp only
                split
                · exact informed.trans (World.settles_notify _ pending.listener outcome)
                · exact informed
              · have told : Exchange.Tells ⟨alone world.tracing pending, .ok result⟩ _ :=
                  .known verdict
                simpa [alone] using told
              · unfold PendingStatement.tells
                change World.heard (if isConditionalQuery pending.query then _ else _) = _
                split
                · rw [World.heard_notify, heard]
                · simpa using heard

theorem executeEnvelope_settles (context : FlushContext) (type : BatchType)
    (statements : List PendingStatement) (world : World) :
    ∃ exchanges, Carried (context.enveloped type statements world.tracing) world.answers exchanges
        (context.executeEnvelope type statements world).1 ∧
      world.Settles exchanges (context.executeEnvelope type statements world).2 := by
  cases statements with
  | nil => exact ⟨[], .finished _, .refl world⟩
  | cons first rest =>
      unfold executeEnvelope
      dsimp only
      generalize envelope : context.envelope type first (first :: rest) world.tracing = batched
      have dispatched : context.enveloped type (first :: rest) world.tracing =
          [⟨first :: rest, .batch batched⟩] := by
        rw [← envelope]
        rfl
      rw [dispatched]
      refine ⟨[⟨⟨first :: rest, .batch batched⟩, world.answers 0⟩], ?_⟩
      cases sent : (world.log (.batchStart type batched.level batched.statements.length ::
          batched.statements.map fun statement => .statement true statement)).submit
          (.batch batched) with
      | mk answer after =>
          obtain ⟨given, settled⟩ := World.settles_sent ⟨first :: rest, _⟩ sent
          cases answer with
          | error error =>
              refine ⟨.single ?_, settled⟩
              rw [← given]
              exact .failed error
          | ok result =>
              have ended := settled.trans (after.settles_log [.batchEnd type batched.level])
              refine ⟨.single ?_, ended.trans (World.settles_logInfo _ result)⟩
              rw [← given]
              exact interpretBatch_verdict batched.statements result

theorem executeEach_settles (pending : List PendingStatement) (world : World) :
    ∃ exchanges, Carried (pending.map (alone world.tracing)) world.answers exchanges
        (executeEach pending world).1 ∧
      world.Settles exchanges (executeEach pending world).2 ∧
      ∃ told, List.Forall₂ Exchange.Tells exchanges told ∧
        (executeEach pending world).2.heard = world.heard ++ told.flatten := by
  induction pending generalizing world with
  | nil => exact ⟨[], .finished _, .refl world, [], .nil, (List.append_nil _).symm⟩
  | cons first rest ih =>
      obtain ⟨verdict, settled, told, tells, heard⟩ := executeOne_settles first world
      unfold executeEach
      cases executed : executeOne first world with
      | mk outcome after =>
          rw [executed] at verdict settled heard
          have ended : after.heard = world.heard ++ [told].flatten := by simpa using heard
          rcases outcome with error | _ | rejection
          · exact ⟨[_], .stopped verdict nofun, settled, [told], .cons tells .nil, ended⟩
          · obtain ⟨exchanges, carried, later, others, tellOthers, further⟩ := ih after
            rw [settled.tracing, settled.answers] at carried
            refine ⟨_ :: exchanges, .onward verdict carried, settled.trans later, told :: others,
              .cons tells tellOthers, ?_⟩
            rw [further, heard, List.flatten_cons, List.append_assoc]
          · exact ⟨[_], .stopped verdict nofun, settled, [told], .cons tells .nil, ended⟩

theorem execute_settles (context : FlushContext) (world : World) :
    ∃ exchanges, Carried (context.dispatches world.tracing) world.answers exchanges
        (context.execute world).1 ∧
      world.Settles exchanges (context.execute world).2 := by
  unfold execute dispatches
  cases context.mode with
  | immediate =>
      obtain ⟨exchanges, carried, settled, _⟩ :=
        executeEach_settles (context.statements ++ context.counterStatements) world
      exact ⟨exchanges, carried, settled⟩
  | batch | orderedBatch =>
      obtain ⟨exchanges, carried, settled⟩ :=
        context.executeEnvelope_settles context.batchType context.statements world
      dsimp only
      cases plain : context.executeEnvelope context.batchType context.statements world with
      | mk outcome after =>
          rw [plain] at carried settled
          rcases outcome with error | _ | rejection
          · exact ⟨exchanges, carried.append_stopped nofun _, settled⟩
          · obtain ⟨others, counted, later⟩ :=
              context.executeEnvelope_settles .counter context.counterStatements after
            rw [settled.tracing, settled.answers] at counted
            exact ⟨exchanges ++ others, carried.append counted, settled.trans later⟩
          · exact ⟨exchanges, carried.append_stopped nofun _, settled⟩

end FlushContext

end CqlMapper
