import CqlMapper.Proofs.Session.Advancing
import Mathlib.Data.List.DropRight

/-!
A batch in use while earlier work of it is still under way. Each call on the batch queues something,
leaves what is queued alone, empties the batch, gives it other levels, or hands its work over.
-/

namespace CqlMapper

structure Session where
  batch : Batch
  tasks : Tasks
  world : World

inductive Move where
  | operation (operation : BatchOperation)
  | clean
  | restart (level serialLevel : Option Level)
  | flush
  | flushAsync
  | mutate (entity : EntityRef) (mutation : Mutation)
  | advance (index : Nat)

namespace Session

def start (manager : EntityManager) (ordered unlogged : Bool) (level serialLevel : Option Level)
    (executor : Executor) (world : World) : Session :=
  ⟨Batch.start manager ordered unlogged level serialLevel, Tasks.new executor, world⟩

def step (session : Session) (move : Move) : Session :=
  match move with
  | .operation operation =>
    let (_, batch, world) := session.batch.perform operation session.world
    ⟨batch, session.tasks, world⟩
  | .clean => { session with batch := session.batch.clean }
  | .restart level serialLevel => { session with batch := session.batch.restart level serialLevel }
  | .flush =>
    let (_, batch, world) := session.batch.flush session.world
    ⟨batch, session.tasks, world⟩
  | .flushAsync =>
    let (_, batch, tasks, world) := session.batch.flushAsync session.tasks session.world
    ⟨batch, tasks, world⟩
  | .mutate entity mutation =>
    { session with world := session.world.update entity (·.attempt mutation) }
  | .advance index =>
    let (tasks, world) := session.tasks.advance index session.world
    ⟨session.batch, tasks, world⟩

def run (session : Session) (moves : List Move) : Session :=
  moves.foldl step session

end Session

/-- What a move means for the work of the batch. -/
inductive Happening where
  | queued (statements : List PendingStatement) (callbacks : List Callback)
  | kept
  | emptied
  | restarted (level serialLevel : Option Level)
  | handed

namespace Happening

def isQuiet : Happening → Bool
  | .queued _ _ | .kept => true
  | .emptied | .restarted _ _ | .handed => false

def statements : Happening → List PendingStatement
  | .queued statements _ => statements
  | _ => []

def callbacks : Happening → List Callback
  | .queued _ callbacks => callbacks
  | _ => []

def levels (before : Option Level × Option Level) : Happening → Option Level × Option Level
  | .restarted level serialLevel => (level, serialLevel)
  | _ => before

end Happening

/-- What has happened since the batch was last emptied, started or flushed. -/
def openSince (past : List Happening) : List Happening :=
  past.rtakeWhile Happening.isQuiet

structure Handover where
  level : Option Level
  serialLevel : Option Level
  statements : List PendingStatement
  callbacks : List Callback

namespace Handover

def after (levels : Option Level × Option Level) (past : List Happening) : Handover where
  level := (past.foldl Happening.levels levels).1
  serialLevel := (past.foldl Happening.levels levels).2
  statements := (openSince past).flatMap Happening.statements
  callbacks := (openSince past).flatMap Happening.callbacks

/-- The envelope of some statements, if there are any. A session without a level has that of the
first of them. -/
def envelope (handover : Handover) (type : BatchType) (tracing : Bool) :
    List PendingStatement → List Submission
  | [] => []
  | first :: rest => [.batch {
      type := type
      statements := (first :: rest).map (·.batched)
      level := handover.level.getD first.level
      serialLevel := handover.serialLevel.or first.serialLevel
      tracing := tracing }]

def envelopes (handover : Handover) (type : BatchType) (tracing : Bool) : List Submission :=
  handover.envelope type tracing (handover.statements.filter fun pending => !pending.counter) ++
    handover.envelope .counter tracing (handover.statements.filter fun pending => pending.counter)

def calls (handover : Handover) (world : World) : List (String × String × Event) :=
  handover.callbacks.flatMap fun callback => callback.calls (world.entityName callback.entity)

end Handover

/-- A flush of either kind hands over what is open before it; nothing else does. -/
def Happening.handsOver (work : Handover) : Happening → List Handover
  | .handed => [work]
  | _ => []

def handovers (levels : Option Level × Option Level) :
    List Happening → List Happening → List Handover
  | _, [] => []
  | past, happening :: rest =>
    happening.handsOver (.after levels past) ++ handovers levels (past ++ [happening]) rest

namespace EntityManager

theorem Stamps.eq_stamp {schema : EntitySchema} {options : WriteOptions}
    {context stamped : FlushContext} {world ticked : World}
    {result : Except WriteError WriteOptions}
    (stamps : Stamps schema options context world result stamped ticked) :
    stamp schema options context world = (result, stamped, ticked) := by
  cases stamps with
  | free unordered =>
      unfold stamp
      split
      · rfl
      · rename_i plain
        have mode : context.mode ≠ .orderedBatch := by
          rcases unordered with clustered | mode
          · exact absurd clustered plain
          · exact mode
        unfold FlushContext.nextStamp
        cases held : context.mode with
        | orderedBatch => exact absurd held mode
        | immediate | batch => rfl
  | ticked plain ordered reading =>
      simp [stamp, plain, FlushContext.nextStamp, ordered, StampClock.tick, reading]
  | timeless plain ordered reading =>
      obtain ⟨mode, _, _, _, _, _, _, clock⟩ := context
      cases ordered
      simp [stamp, plain, FlushContext.nextStamp, StampClock.tick, reading]

end EntityManager

theorem Operation.Makes.unique {operation : Operation} {manager : EntityManager}
    {context : FlushContext} {world : World} {statements others : List PendingStatement}
    {callbacks further : List Callback}
    (makes : operation.Makes manager context world statements callbacks)
    (also : operation.Makes manager context world others further) :
    statements = others ∧ callbacks = further := by
  obtain ⟨⟨named, known, _, stamps, generated⟩, pends⟩ := makes
  obtain ⟨⟨alsoNamed, alsoKnown, _, alsoStamps, alsoGenerated⟩, alsoPends⟩ := also
  rw [named] at alsoNamed
  cases alsoNamed
  rw [known] at alsoKnown
  cases alsoKnown
  have same := stamps.eq_stamp.symm.trans alsoStamps.eq_stamp
  cases same
  rw [generated] at alsoGenerated
  cases alsoGenerated
  have first := EntityManager.forall₂_pends_iff.mp pends
  exact ⟨first.symm.trans (EntityManager.forall₂_pends_iff.mp alsoPends), rfl⟩

theorem Operation.inBatch_inj {first second : Operation} (same : first.inBatch = second.inBatch) :
    first = second := by
  cases first <;> cases second <;> cases same <;> rfl

namespace BatchOperation

variable {batch : Batch} {world : World} {statements others : List PendingStatement}
  {callbacks further : List Callback}

theorem makes_inBatch {operation : Operation}
    (makes : Makes batch world operation.inBatch statements callbacks) :
    operation.Makes batch.manager batch.context world statements callbacks := by
  generalize same : operation.inBatch = given at makes
  cases makes with
  | operation makes => exact Operation.inBatch_inj same ▸ makes
  | native => cases operation <;> cases same

theorem makes_native {query : String} {values : List CqlValue}
    (makes : Makes batch world (.native query values) statements callbacks) :
    statements = [batch.nativeStatement query values] ∧ callbacks = [] := by
  generalize same : BatchOperation.native query values = given at makes
  cases makes with
  | @operation operation => cases operation <;> cases same
  | native accepted written =>
      cases same
      rw [Batch.handWritten_iff.mp written]
      exact ⟨rfl, rfl⟩

theorem Makes.unique {operation : BatchOperation}
    (makes : operation.Makes batch world statements callbacks)
    (also : operation.Makes batch world others further) :
    statements = others ∧ callbacks = further := by
  cases makes with
  | operation makes => exact makes.unique (makes_inBatch also)
  | native accepted written =>
      obtain ⟨rfl, rfl⟩ := makes_native also
      rw [Batch.handWritten_iff.mp written]
      exact ⟨rfl, rfl⟩

end BatchOperation

inductive Happens (session : Session) : Move → Happening → Prop
  | queued {operation : BatchOperation} {statements : List PendingStatement}
      {callbacks : List Callback}
      (performed : (session.batch.perform operation session.world).1 = .ok ())
      (makes : operation.Makes session.batch session.world statements callbacks) :
      Happens session (.operation operation) (.queued statements callbacks)
  | failed {operation : BatchOperation} {error : WriteError}
      (fails : (session.batch.perform operation session.world).1 = .error error)
      (accepts : session.batch.refusal? operation.options = none) :
      Happens session (.operation operation) .kept
  | refused {operation : BatchOperation} {fault : UsageFault}
      (refuses : session.batch.refusal? operation.options = some fault) :
      Happens session (.operation operation) .emptied
  | clean : Happens session .clean .emptied
  | restart (level serialLevel : Option Level) :
      Happens session (.restart level serialLevel) (.restarted level serialLevel)
  | flush : Happens session .flush .handed
  | flushAsync : Happens session .flushAsync .handed
  | mutate (entity : EntityRef) (mutation : Mutation) :
      Happens session (.mutate entity mutation) .kept
  | advance (index : Nat) : Happens session (.advance index) .kept

inductive Happened : Session → List Move → List Happening → Prop
  | nil (session : Session) : Happened session [] []
  | cons {session : Session} {move : Move} {moves : List Move} {happening : Happening}
      {happenings : List Happening} (happens : Happens session move happening)
      (later : Happened (session.step move) moves happenings) :
      Happened session (move :: moves) (happening :: happenings)

namespace Batch

variable {batch : Batch} {world : World} {operation : BatchOperation}

theorem perform_refused {fault : UsageFault}
    (refuses : batch.refusal? operation.options = some fault) :
    batch.perform operation world = (.error (.usage fault), batch.clean, world) := by
  cases operation with
  | write kind entity options | removeById entity key options =>
      have refused : batch.refusal? options = some fault := refuses
      simp only [perform, guarded, refused]
  | native query values => cases refuses

/-- An operation that fails without being refused adds nothing. -/
theorem perform_failed {error : WriteError}
    (fails : (batch.perform operation world).1 = .error error)
    (accepts : batch.refusal? operation.options = none) :
    batch.context.Adds (batch.perform operation world).2.1.context [] [] := by
  have prepared (given : Operation)
      (fails : (batch.perform given.inBatch world).1 = .error error)
      (accepts : batch.refusal? given.options = none) :
      batch.context.Adds (batch.perform given.inBatch world).2.1.context [] [] := by
    obtain ⟨result, after, final, done, queues⟩ :=
      given.prepare_queues batch.manager batch.context world
    rw [perform_inBatch, guarded, accepts, done] at fails ⊢
    cases queues with
    | refused => exact .refl _
    | failed stamps store => exact stamps.adds
    | queued => cases fails
  cases operation with
  | write kind entity options => exact prepared (.write kind entity options) fails accepts
  | removeById entity key options => exact prepared (.removeById entity key options) fails accepts
  | native query values =>
      cases accepted : isNativeWrite query with
      | true => simp [perform, accepted] at fails
      | false =>
          simp only [perform, accepted, Bool.false_eq_true, if_false]
          exact .refl _

theorem perform_queued {statements : List PendingStatement} {callbacks : List Callback}
    (performed : (batch.perform operation world).1 = .ok ())
    (makes : operation.Makes batch world statements callbacks) :
    batch.context.Adds (batch.perform operation world).2.1.context statements callbacks := by
  cases makes with
  | @operation given _ _ makes =>
      have effect := (batch.inBatch_effect given world).2
      rw [performed] at effect
      cases effect with
      | performed _ _ also adds =>
          obtain ⟨rfl, rfl⟩ := makes.unique (BatchOperation.makes_inBatch also)
          exact adds
  | native accepted written =>
      simp only [perform, isNativeWrite_iff.mpr accepted, if_true]
      rw [← handWritten_iff.mp written]
      exact batch.context.adds_push _

end Batch

theorem exists_happens (session : Session) (move : Move) :
    ∃ happening, Happens session move happening := by
  have prepared (given : Operation) :
      ∃ happening, Happens session (.operation given.inBatch) happening := by
    cases refusal : session.batch.refusal? given.inBatch.options with
    | some fault => exact ⟨_, .refused refusal⟩
    | none =>
        have effect := (session.batch.inBatch_effect given session.world).2
        generalize result : (session.batch.perform given.inBatch session.world).1 = ended at effect
        cases effect with
        | refused | failed => exact ⟨_, .failed result refusal⟩
        | performed _ _ makes adds => exact ⟨_, .queued result makes⟩
  cases move with
  | operation operation =>
      cases operation with
      | write kind entity options => exact prepared (.write kind entity options)
      | removeById entity key options => exact prepared (.removeById entity key options)
      | native query values =>
          cases accepted : Batch.isNativeWrite query with
          | true =>
              have performed : (session.batch.perform (.native query values) session.world).1 =
                  .ok () := by simp [Batch.perform, accepted]
              have text := Batch.isNativeWrite_iff.mp accepted
              exact ⟨_, .queued performed (.native text (Batch.handWritten_iff.mpr rfl))⟩
          | false =>
              have fails : (session.batch.perform (.native query values) session.world).1 =
                  .error (.usage (.notAWrite query)) := by simp [Batch.perform, accepted]
              exact ⟨_, .failed fails rfl⟩
  | clean => exact ⟨_, .clean⟩
  | restart level serialLevel => exact ⟨_, .restart level serialLevel⟩
  | flush => exact ⟨_, .flush⟩
  | flushAsync => exact ⟨_, .flushAsync⟩
  | mutate entity mutation => exact ⟨_, .mutate entity mutation⟩
  | advance index => exact ⟨_, .advance index⟩

theorem exists_happened (session : Session) (moves : List Move) :
    ∃ happenings, Happened session moves happenings := by
  induction moves generalizing session with
  | nil => exact ⟨[], .nil session⟩
  | cons move rest ih =>
      obtain ⟨happening, happens⟩ := exists_happens session move
      obtain ⟨happenings, later⟩ := ih (session.step move)
      exact ⟨happening :: happenings, .cons happens later⟩

theorem Happens.unique {session : Session} {move : Move} {happening other : Happening}
    (happens : Happens session move happening) (also : Happens session move other) :
    happening = other := by
  have apart {operation : BatchOperation} {fault : UsageFault} {performed : Prop}
      (ok : (session.batch.perform operation session.world).1 = .ok ())
      (refuses : session.batch.refusal? operation.options = some fault) : performed := by
    rw [Batch.perform_refused refuses] at ok
    cases ok
  cases happens with
  | queued performed makes =>
      cases also with
      | queued _ alsoMakes =>
          obtain ⟨rfl, rfl⟩ := makes.unique alsoMakes
          rfl
      | failed fails =>
          rw [performed] at fails
          cases fails
      | refused refuses => exact apart performed refuses
  | failed fails accepts =>
      cases also with
      | queued performed =>
          rw [performed] at fails
          cases fails
      | failed => rfl
      | refused refuses =>
          rw [accepts] at refuses
          cases refuses
  | refused refuses =>
      cases also with
      | queued performed => exact apart performed refuses
      | failed _ accepts =>
          rw [accepts] at refuses
          cases refuses
      | refused => rfl
  | clean | restart | flush | flushAsync | mutate | advance => cases also; rfl

/-- A run has one meaning only. -/
theorem Happened.unique {session : Session} {moves : List Move} {happenings others : List Happening}
    (happened : Happened session moves happenings) (also : Happened session moves others) :
    happenings = others := by
  induction happened generalizing others with
  | nil session => cases also; rfl
  | cons happens later ih =>
      cases also with
      | cons alsoHappens alsoLater =>
          obtain rfl := happens.unique alsoHappens
          rw [ih alsoLater]

end CqlMapper
