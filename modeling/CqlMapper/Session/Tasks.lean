import CqlMapper.Session.Batch

/-!
Writes that are executed apart from the call that prepared them. A ticket stands for the outcome of
such a write; it can be taken once, and is lost when the task never runs.
-/

namespace CqlMapper

/-- When a task runs: as it is submitted, when the queue is worked off, or never. -/
inductive Executor where
  | atOnce | queued | dropping
  deriving DecidableEq, Inhabited

abbrev Ticket := Nat

structure Tasks where
  executor : Executor
  waiting : List (Ticket × FlushContext)
  finished : List (Ticket × Except WriteError Outcome)
  nextTicket : Ticket

namespace Tasks

def new (executor : Executor) : Tasks := ⟨executor, [], [], 0⟩

def submit (tasks : Tasks) (work : FlushContext) (world : World) : Ticket × Tasks × World :=
  let ticket := tasks.nextTicket
  let tasks := { tasks with nextTicket := ticket + 1 }
  match tasks.executor with
  | .atOnce =>
    let (result, world) := work.run world
    (ticket, { tasks with finished := tasks.finished ++ [(ticket, result)] }, world)
  | .queued => (ticket, { tasks with waiting := tasks.waiting ++ [(ticket, work)] }, world)
  | .dropping => (ticket, tasks, world)

/-- Runs up to `count` waiting tasks in the order of their submission; also gives how many ran. -/
def work : Nat → Tasks → World → Nat × Tasks × World
  | 0, tasks, world => (0, tasks, world)
  | count + 1, tasks, world =>
    match tasks.waiting with
    | [] => (0, tasks, world)
    | (ticket, context) :: rest =>
      let (result, world) := context.run world
      let tasks := { tasks with
        waiting := rest, finished := tasks.finished ++ [(ticket, result)] }
      let (ran, tasks, world) := work count tasks world
      (ran + 1, tasks, world)

def take? (tasks : Tasks) (ticket : Ticket) : Option (Except WriteError Outcome) × Tasks :=
  match tasks.finished.find? (·.1 == ticket) with
  | some (_, result) =>
    (some result, { tasks with finished := tasks.finished.filter (·.1 != ticket) })
  | none => (none, tasks)

/-- The outcome behind a ticket; without one the task is taken to be lost. -/
def wait (tasks : Tasks) (ticket : Ticket) : Except WriteError Outcome × Tasks :=
  match tasks.take? ticket with
  | (some result, tasks) => (result, tasks)
  | (none, tasks) => (.error .taskDropped, tasks)

end Tasks

def EntityManager.writeAsync (manager : EntityManager) (kind : WriteKind) (entity : EntityRef)
    (options : WriteOptions) (tasks : Tasks) (world : World) :
    Except WriteError Ticket × Tasks × World :=
  match manager.prepare kind entity options .immediate world with
  | (.error error, _, world) => (.error error, tasks, world)
  | (.ok (), context, world) =>
    let (ticket, tasks, world) := tasks.submit context world
    (.ok ticket, tasks, world)

def Batch.flushAsync (batch : Batch) (tasks : Tasks) (world : World) :
    Ticket × Batch × Tasks × World :=
  let (work, batch) := batch.detach
  let (ticket, tasks, world) := tasks.submit work world
  (ticket, batch, tasks, world)

end CqlMapper
