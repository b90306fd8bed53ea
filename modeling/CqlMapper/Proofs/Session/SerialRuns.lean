import CqlMapper.Proofs.Keyed
import CqlMapper.Proofs.Session.Calls
import CqlMapper.Proofs.Session.HandOver
import CqlMapper.Proofs.Session.Waiting

/-!
Which serial levels reach the store. The options of an operation are checked, but neither the
default of the configuration nor the level of a batch is, so that these two decide.
-/

namespace CqlMapper

def SerialOrNone (level : Option Level) : Prop :=
  ∀ given, level = some given → given.isSerial = true

theorem SerialOrNone.or {first second : Option Level} (leading : SerialOrNone first)
    (following : SerialOrNone second) : SerialOrNone (first.or second) := by
  cases first with
  | none => exact following
  | some level => exact leading

structure FlushContext.OnlySerial (context : FlushContext) : Prop where
  session : SerialOrNone context.serialLevel
  plain : ∀ pending ∈ context.statements, SerialOrNone pending.serialLevel
  counters : ∀ pending ∈ context.counterStatements, SerialOrNone pending.serialLevel

namespace FlushContext

variable {context after : FlushContext} {statements : List PendingStatement}
  {callbacks : List Callback}

theorem onlySerial_of_empty (session : SerialOrNone context.serialLevel)
    (plain : context.statements = []) (counters : context.counterStatements = []) :
    context.OnlySerial := by
  refine ⟨session, ?_, ?_⟩
  · rw [plain]
    exact List.forall_mem_nil _
  · rw [counters]
    exact List.forall_mem_nil _

theorem onlySerial_immediate : immediate.OnlySerial :=
  onlySerial_of_empty nofun rfl rfl

theorem OnlySerial.emptied (serial : context.OnlySerial) : context.clean.OnlySerial :=
  onlySerial_of_empty serial.session rfl rfl

theorem OnlySerial.adds (serial : context.OnlySerial)
    (adds : context.Adds after statements callbacks)
    (each : ∀ pending ∈ statements, SerialOrNone pending.serialLevel) :
    after.OnlySerial := by
  refine ⟨?_, ?_, ?_⟩
  · rw [adds.serialLevel]
    exact serial.session
  · rw [adds.plain]
    refine List.forall_mem_append.mpr ⟨serial.plain, ?_⟩
    exact fun pending member => each pending (List.mem_filter.mp member).1
  · rw [adds.counters]
    refine List.forall_mem_append.mpr ⟨serial.counters, ?_⟩
    exact fun pending member => each pending (List.mem_filter.mp member).1

theorem OnlySerial.enveloped (serial : context.OnlySerial) {type : BatchType} {tracing : Bool}
    (each : ∀ pending ∈ statements, SerialOrNone pending.serialLevel) :
    ∀ dispatch ∈ context.enveloped type statements tracing,
      SerialOrNone dispatch.submission.serialLevel? := by
  intro dispatch member
  obtain ⟨first, leads, rfl⟩ := List.mem_map.mp member
  have among : first ∈ statements := List.mem_of_mem_head? (by simpa using leads)
  exact serial.session.or (each first among)

theorem OnlySerial.dispatches (serial : context.OnlySerial) (tracing : Bool) :
    ∀ dispatch ∈ context.dispatches tracing,
      SerialOrNone dispatch.submission.serialLevel? := by
  unfold FlushContext.dispatches
  cases context.mode with
  | immediate =>
      rw [List.forall_mem_map]
      exact List.forall_mem_append.mpr ⟨serial.plain, serial.counters⟩
  | batch | orderedBatch =>
      exact List.forall_mem_append.mpr
        ⟨serial.enveloped serial.plain, serial.enveloped serial.counters⟩

theorem OnlySerial.run (serial : context.OnlySerial) (world : World)
    (before : ∀ submission ∈ world.executed, SerialOrNone submission.serialLevel?) :
    ∀ submission ∈ (context.run world).2.executed,
      SerialOrNone submission.serialLevel? := by
  obtain ⟨exchanges, ⟨outcome, carried⟩, executed⟩ := context.exists_sends world
  rw [executed]
  refine List.forall_mem_append.mpr ⟨before, ?_⟩
  intro submission member
  obtain ⟨exchange, among, rfl⟩ := List.mem_map.mp member
  exact serial.dispatches world.tracing _ (carried.isPrefix.subset (List.mem_map_of_mem among))

end FlushContext

/-- The only check there is: that of the options. -/
theorem EntityManager.optionFault?_serial {schema : EntitySchema} {kind : WriteKind}
    {options : WriteOptions} (faultless : optionFault? schema kind options = none) :
    SerialOrNone options.serialLevel := by
  intro level asked
  cases checked : level.isSerial with
  | true => rfl
  | false =>
      unfold optionFault? at faultless
      split at faultless
      · cases faultless
      · simp [asked, Option.filter_some, checked] at faultless

namespace Operation

variable {operation : Operation} {manager : EntityManager} {context after : FlushContext}
  {world final : World} {result : Except WriteError Unit}

theorem Queues.onlySerial (queues : operation.Queues manager context world result after final)
    (default : SerialOrNone manager.config.defaultSerial) (serial : context.OnlySerial) :
    after.OnlySerial := by
  cases queues with
  | refused => exact serial
  | failed stamps store => exact serial.adds stamps.adds (List.forall_mem_nil _)
  | queued admits stamps generated adds post clock store =>
      obtain ⟨_, _, _, faultless⟩ := admitted_ok admits
      refine serial.adds adds ?_
      intro pending member
      obtain ⟨statement, _, rfl⟩ := List.mem_map.mp member
      have asked := EntityManager.optionFault?_serial faultless
      cases stamps <;> exact asked.or default

/-- What an operation by itself prepares, with the store as it was. -/
theorem prepare_onlySerial (operation : Operation)
    (default : SerialOrNone manager.config.defaultSerial) (serial : context.OnlySerial)
    (world : World) :
    (operation.prepare manager context world).2.1.OnlySerial ∧
      (operation.prepare manager context world).2.2.executed = world.executed := by
  obtain ⟨result, after, final, outcome, queues⟩ :=
    operation.prepare_queues manager context world
  rw [outcome]
  exact ⟨queues.onlySerial default serial, queues.sameStore.executed⟩

end Operation

theorem Batch.perform_onlySerial {batch : Batch}
    (default : SerialOrNone batch.manager.config.defaultSerial) (serial : batch.context.OnlySerial)
    (operation : BatchOperation) (world : World) :
    (batch.perform operation world).2.1.context.OnlySerial := by
  have performs (operation : Operation) :
      (batch.perform operation.inBatch world).2.1.context.OnlySerial := by
    rw [perform_inBatch, guarded]
    cases batch.refusal? operation.options with
    | some fault => exact serial.emptied
    | none => exact (operation.prepare_onlySerial default serial world).1
  cases operation with
  | write kind entity options => exact performs (.write kind entity options)
  | removeById entity key options => exact performs (.removeById entity key options)
  | native query values =>
      simp only [perform]
      split
      · have adds := batch.context.adds_push (batch.nativeStatement query values)
        exact serial.adds adds (List.forall_mem_singleton.mpr serial.session)
      · exact serial

structure Tasks.OnlySerial (tasks : Tasks) (world : World) : Prop where
  waiting : ∀ task ∈ tasks.waiting, task.2.OnlySerial
  sent : ∀ submission ∈ world.executed, SerialOrNone submission.serialLevel?

namespace Tasks

variable {tasks : Tasks} {world : World}

theorem OnlySerial.submit (serial : tasks.OnlySerial world) {work : FlushContext}
    (fit : work.OnlySerial) :
    (tasks.submit work world).2.1.OnlySerial (tasks.submit work world).2.2 := by
  unfold Tasks.submit
  cases tasks.executor with
  | atOnce => exact ⟨serial.waiting, fit.run world serial.sent⟩
  | queued =>
      refine ⟨?_, serial.sent⟩
      exact List.forall_mem_append.mpr ⟨serial.waiting, List.forall_mem_singleton.mpr fit⟩
  | dropping => exact ⟨serial.waiting, serial.sent⟩

theorem OnlySerial.work (serial : tasks.OnlySerial world) (count : Nat) :
    (Tasks.work count tasks world).2.1.OnlySerial (Tasks.work count tasks world).2.2 := by
  induction count generalizing tasks world with
  | zero => exact serial
  | succ count ih =>
      unfold Tasks.work
      split
      · exact serial
      · rename_i ticket context rest held
        have waiting := serial.waiting
        rw [held] at waiting
        obtain ⟨first, others⟩ := List.forall_mem_cons.mp waiting
        exact ih ⟨others, first.run world serial.sent⟩

end Tasks

namespace EntityManager

variable {manager : EntityManager} {tasks : Tasks} {world : World}

theorem call_onlySerial (operation : Operation)
    (default : SerialOrNone manager.config.defaultSerial) (serial : tasks.OnlySerial world) :
    tasks.OnlySerial (operation.call manager world).2 := by
  obtain ⟨prepared, executed⟩ :=
    operation.prepare_onlySerial default FlushContext.onlySerial_immediate world
  have sent := serial.sent
  rw [← executed] at sent
  rw [Operation.call_eq]
  split
  · rename_i outcome
    rw [outcome] at sent
    exact ⟨serial.waiting, sent⟩
  · rename_i outcome
    rw [outcome] at prepared sent
    exact ⟨serial.waiting, prepared.run _ sent⟩

theorem writeAsync_onlySerial (kind : WriteKind) (entity : EntityRef) (options : WriteOptions)
    (default : SerialOrNone manager.config.defaultSerial) (serial : tasks.OnlySerial world) :
    (manager.writeAsync kind entity options tasks world).2.1.OnlySerial
      (manager.writeAsync kind entity options tasks world).2.2 := by
  obtain ⟨prepared, executed⟩ := (Operation.write kind entity options).prepare_onlySerial default
    FlushContext.onlySerial_immediate world
  have sent := serial.sent
  rw [← executed] at sent
  unfold writeAsync
  split
  · rename_i outcome
    rw [Operation.prepare, outcome] at sent
    exact ⟨serial.waiting, sent⟩
  · rename_i outcome
    rw [Operation.prepare, outcome] at prepared sent
    exact Tasks.OnlySerial.submit ⟨serial.waiting, sent⟩ prepared

end EntityManager

def Call.fixes : Call → Option Level
  | .startBatch _ _ _ _ serialLevel | .restart _ _ serialLevel => serialLevel
  | _ => none

namespace Workbench

/-- A workbench of one manager on which all that has been sent, that waits among the tasks or in a
batch, and that its batches are fixed to, is serial. -/
structure OnlySerial (manager : EntityManager) (bench : Workbench) : Prop where
  own : bench.manager = manager
  tasks : bench.tasks.OnlySerial bench.world
  batches : ∀ entry ∈ bench.batches,
    entry.2.manager = manager ∧ entry.2.context.OnlySerial

variable {manager : EntityManager} {bench : Workbench}

theorem OnlySerial.withRecord (serial : bench.OnlySerial manager) (name : String)
    {call : EntityRef → Tasks → World → Tasks × World}
    (keeps : ∀ entity, (call entity bench.tasks bench.world).1.OnlySerial
      (call entity bench.tasks bench.world).2) :
    (bench.withRecord name call).OnlySerial manager := by
  unfold Workbench.withRecord
  split
  · exact serial
  · exact ⟨serial.own, keeps _, serial.batches⟩

theorem OnlySerial.putBatch (serial : bench.OnlySerial manager) (name : String) {batch : Batch}
    (own : batch.manager = manager) (fit : batch.context.OnlySerial) :
    ∀ entry ∈ bench.batches.put name batch,
      entry.2.manager = manager ∧ entry.2.context.OnlySerial := by
  intro entry member
  rcases Keyed.mem_put member with old | rfl
  · exact serial.batches entry old
  · exact ⟨own, fit⟩

theorem OnlySerial.withBatch (serial : bench.OnlySerial manager) (name : String)
    {call : Batch → Tasks → World → Batch × Tasks × World}
    (keeps : ∀ batch : Batch, batch.manager = manager → batch.context.OnlySerial →
      (call batch bench.tasks bench.world).1.manager = manager ∧
        (call batch bench.tasks bench.world).1.context.OnlySerial ∧
        (call batch bench.tasks bench.world).2.1.OnlySerial
          (call batch bench.tasks bench.world).2.2) :
    (bench.withBatch name call).OnlySerial manager := by
  unfold Workbench.withBatch
  split
  · exact serial
  · rename_i batch found
    obtain ⟨own, fit⟩ := serial.batches _ (Keyed.mem_of_get? found)
    obtain ⟨still, kept, tasks⟩ := keeps batch own fit
    exact ⟨serial.own, tasks, serial.putBatch name still kept⟩

/-- No call sends or queues another level, unless it fixes one for a batch. -/
theorem OnlySerial.after (serial : bench.OnlySerial manager)
    (default : SerialOrNone manager.config.defaultSerial) {call : Call}
    (fixed : SerialOrNone call.fixes) : (bench.after call).OnlySerial manager := by
  have own := serial.own
  have tasks := serial.tasks
  cases call with
  | surroundings records cells wall tracing answers =>
      exact ⟨own, ⟨tasks.waiting, tasks.sent⟩, serial.batches⟩
  | write kind name options =>
      rw [after_write, own]
      refine serial.withRecord name fun entity => ?_
      exact EntityManager.call_onlySerial (.write kind entity options) default tasks
  | removeById entity key options =>
      have called := EntityManager.call_onlySerial (.removeById entity key options) default tasks
      rw [← own] at called
      exact ⟨own, called, serial.batches⟩
  | writeAsync kind name options =>
      rw [after_writeAsync, own]
      refine serial.withRecord name fun entity => ?_
      exact EntityManager.writeAsync_onlySerial kind entity options default tasks
  | runTasks wanted => exact ⟨own, tasks.work _, serial.batches⟩
  | startBatch name ordered unlogged level serialLevel =>
      have fresh : (Batch.start bench.manager ordered unlogged level
          serialLevel).context.OnlySerial :=
        FlushContext.onlySerial_of_empty fixed rfl rfl
      exact ⟨own, tasks, serial.putBatch name own fresh⟩
  | restart name level serialLevel =>
      rw [after_restart]
      refine serial.withBatch name fun batch mine _ => ⟨mine, ?_, tasks⟩
      exact FlushContext.onlySerial_of_empty fixed rfl rfl
  | clean name =>
      rw [after_clean]
      exact serial.withBatch name fun batch mine fit => ⟨mine, fit.emptied, tasks⟩
  | perform name operation =>
      rw [after_perform]
      refine serial.withBatch name fun batch mine fit => ?_
      subst mine
      have gains := batch.perform_gains operation bench.world
      refine ⟨(batch.perform_effect operation bench.world).1,
        Batch.perform_onlySerial default fit operation bench.world, tasks.waiting, ?_⟩
      rw [gains.executed, List.append_nil]
      exact tasks.sent
  | flush name =>
      rw [after_flush]
      refine serial.withBatch name fun batch mine fit => ?_
      exact ⟨mine, fit.emptied, tasks.waiting, fit.run bench.world tasks.sent⟩
  | flushAsync name =>
      rw [after_flushAsync]
      exact serial.withBatch name fun batch mine fit => ⟨mine, fit.emptied, tasks.submit fit⟩
  | drop name =>
      refine ⟨own, tasks, ?_⟩
      exact fun entry member => serial.batches entry (List.mem_filter.mp member).1

theorem OnlySerial.run (serial : bench.OnlySerial manager)
    (default : SerialOrNone manager.config.defaultSerial) {calls : List Call}
    (fixed : ∀ call ∈ calls, SerialOrNone call.fixes) :
    (bench.run calls).OnlySerial manager := by
  unfold Workbench.run
  induction calls generalizing bench with
  | nil => exact serial
  | cons call rest ih =>
      obtain ⟨first, others⟩ := List.forall_mem_cons.mp fixed
      exact ih (serial.after default first) others

end Workbench

/-- Whether nothing but serial levels is sent as serial level in any run that fixes no others for
its batches than these. -/
def SendsOnlySerial (config : Config) (given : List Level) : Prop :=
  ∀ (registry : Registry) (executor : Executor) (world : World) (calls : List Call),
    world.executed = [] →
    (∀ call ∈ calls, ∀ level, call.fixes = some level → level ∈ given) →
      ∀ submission ∈ ((Workbench.new ⟨registry, config⟩ world executor).run calls).world.executed,
        SerialOrNone submission.serialLevel?

theorem FlushContext.first_sent {context : FlushContext} {world : World} {dispatch : Dispatch}
    {rest : List Dispatch} (listed : context.dispatches world.tracing = dispatch :: rest) :
    dispatch.submission ∈ (context.run world).2.executed := by
  obtain ⟨exchanges, ⟨outcome, carried⟩, executed⟩ := context.exists_sends world
  rw [listed] at carried
  obtain ⟨later, rfl⟩ := carried.exists_first
  rw [executed]
  exact List.mem_append_right _ (List.mem_map_of_mem List.mem_cons_self)

def removal : List Call :=
  [.removeById "Player" [.int 7] .standard]

/-- A player is removed at the default of the configuration. -/
theorem default_sent (config : Config) :
    ∃ submission ∈ ((Workbench.new ⟨league.registry, config⟩ arena .atOnce).run
        removal).world.executed,
      submission.serialLevel? = config.defaultSerial := by
  let removing := (Operation.removeById "Player" [.int 7] .standard).prepared
    ⟨league.registry, config⟩ arena
  have ran : ((Workbench.new ⟨league.registry, config⟩ arena .atOnce).run removal).world =
      (removing.run arena).2 := rfl
  have listed : removing.dispatches arena.tracing = _ :: _ := rfl
  rw [ran]
  exact ⟨_, FlushContext.first_sent listed, rfl⟩

def cleanup (level : Level) : List Call :=
  [.startBatch "b" false false none (some level),
    .perform "b" (.native "DELETE FROM drafts" []), .flush "b"]

theorem fixed_sent (config : Config) (level : Level) :
    ∃ submission ∈ ((Workbench.new ⟨league.registry, config⟩ arena .atOnce).run
        (cleanup level)).world.executed,
      submission.serialLevel? = some level := by
  let fresh := Batch.start ⟨league.registry, config⟩ false false none (some level)
  let cleaning := (fresh.perform (.native "DELETE FROM drafts" []) arena).2.1
  have ran : ((Workbench.new ⟨league.registry, config⟩ arena .atOnce).run
      (cleanup level)).world = (cleaning.context.run arena).2 := by
    have started : (Workbench.new ⟨league.registry, config⟩ arena .atOnce).after
        (.startBatch "b" false false none (some level)) =
      { Workbench.new ⟨league.registry, config⟩ arena .atOnce with
        batches := Keyed.put "b" fresh [] } := rfl
    simp only [Workbench.run, cleanup, List.foldl_cons, List.foldl_nil, started,
      Workbench.after_perform, Workbench.after_flush, Workbench.withBatch, Keyed.get?_put_self]
    rfl
  have listed : cleaning.context.dispatches arena.tracing = _ :: _ := rfl
  rw [ran]
  exact ⟨_, FlushContext.first_sent listed, rfl⟩

/-- The options of operations never bring another level to the store than a serial one. The default
of the configuration and the levels fixed for batches do, whenever they are not serial. -/
theorem sendsOnlySerial_iff (config : Config) (given : List Level) :
    SendsOnlySerial config given ↔
      SerialOrNone config.defaultSerial ∧ ∀ level ∈ given, level.isSerial = true := by
  constructor
  · intro serial
    refine ⟨?_, ?_⟩
    · obtain ⟨submission, sent, same⟩ := default_sent config
      rw [← same]
      exact serial _ _ _ _ rfl (by simp [removal, Call.fixes]) submission sent
    · intro level member
      obtain ⟨submission, sent, same⟩ := fixed_sent config level
      refine serial _ _ _ _ rfl ?_ submission sent level same
      simp [cleanup, Call.fixes, member]
  · rintro ⟨default, fixed⟩ registry executor world calls fresh among
    have start : (Workbench.new ⟨registry, config⟩ world executor).OnlySerial
        ⟨registry, config⟩ := by
      refine ⟨rfl, ⟨List.forall_mem_nil _, ?_⟩, List.forall_mem_nil _⟩
      change ∀ submission ∈ world.executed, _
      rw [fresh]
      exact List.forall_mem_nil _
    have ran := start.run default fun call member level fixes =>
      fixed level (among call member level fixes)
    exact ran.tasks.sent

def quorumLeague : EntityManager :=
  { league with config := { Config.standard with defaultSerial := some .quorum } }

def ifAbsent : WriteOptions :=
  { WriteOptions.standard with ifNotExists := true }

/-- As a default a level that is not serial is sent, where it is refused as an option. -/
theorem quorum_sent :
    ((quorumLeague.write .insert 0 ifAbsent arena).2.executed.map Submission.serialLevel?) =
        [some .quorum, some .quorum] ∧ Level.quorum.isSerial = false ∧
      (quorumLeague.write .insert 0 { ifAbsent with serialLevel := some .quorum } arena).1 =
        .error (.usage (.notSerial .quorum)) := by
  exact ⟨rfl, rfl, rfl⟩

end CqlMapper
